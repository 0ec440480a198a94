/-
What the standard vocabulary keeps apart, checked word by word.

- `standard_words`: no word of it means two things, and every entry is one word, in small letters but for the pronoun
  "I";
- `standard_names`: no two names begin with the same word, nor with a pronoun, an article or a particle;
- `standard_names_unlisted`: nor with any other word of it;
- `standard_openings`: the words that open an assignment or a question about a partner open nothing else;
- `standard_numerals`: no two numerals are the same;
- `standardNumerals_first`: so every numeral stands for its place and no other;
- `standard_valid`, `standard_classify_eq_none`: the vocabulary has no flaw, and a word in small letters that is not
  listed means nothing.
-/
import Playscript.Lexicon.Standard
import Playscript.Cast
import Playscript.Phrase.Reading
import Playscript.Proofs.Lexicon.Classification
import Playscript.Proofs.Text.Eating

namespace Playscript.Lexicon

/-! ## The words -/

/-- how the words of a lexicon are kept apart from each other and from those that readers look for -/
structure WordsApart (lexicon : Lexicon) : Prop where
  flawless : lexicon.flaw? = none
  single : ∀ entry ∈ lexicon.entries, Words.ofBody entry.1 = [entry.1]
  small : ∀ entry ∈ lexicon.entries, entry.1 = "I" ∨ Text.lowercase entry.1 = entry.1
  no_article : ∀ entry ∈ lexicon.entries, entry.1 ≠ "a" ∧ entry.1 ≠ "an"
  pronouns : ∀ entry ∈ lexicon.pronouns.entries, ∀ word ∈ entry.2.cases, ∀ particle ∈ Words.particles,
    Text.same word particle = false
  comparatives : ∀ entry ∈ lexicon.comparatives.entries, ∀ word ∈ ["as", "not"], Text.same entry.1 word = false

theorem standard_words : standard.WordsApart where
  flawless := by decide +kernel
  single := by decide +kernel
  small := by decide +kernel
  no_article := by decide +kernel
  pronouns := by decide +kernel
  comparatives := by decide +kernel

/-! ## The words that open a clause -/

/-- the pronouns by their subject form and by their verb -/
structure OpeningsApart (lexicon : Lexicon) : Prop where
  you : lexicon.subjectPronoun "you" = some (.addressee, ⟨"you", "you", "yourself", "are"⟩)
  no_subject : ∀ verb ∈ ["am", "are", "is"], lexicon.subjectPronoun verb = none
  am : lexicon.verbPronoun "am" = some (.speaker, ⟨"I", "me", "myself", "am"⟩)
  are : lexicon.verbPronoun "are" = some (.addressee, ⟨"you", "you", "yourself", "are"⟩)
  no_verb : lexicon.verbPronoun "is" = none

theorem standard_openings : standard.OpeningsApart where
  you := by decide +kernel
  no_subject := by decide +kernel
  am := by decide +kernel
  are := by decide +kernel
  no_verb := by decide +kernel

/-! ## The names -/

/-- how the names of a lexicon are kept apart from each other and from its words -/
structure NamesApart (lexicon : Lexicon) : Prop where
  words : ∀ name ∈ lexicon.cast, Text.words name ≠ [] ∧ Words.ofBody name = Text.words name
  /-- a name in front of a comma -/
  listed : ∀ name ∈ lexicon.cast, Words.ofBody (name ++ ",") = Text.words name ++ [","]
  /-- no name ends with a blank, a mark or a bracket -/
  ends : ∀ name ∈ lexicon.cast, ∃ c ∈ name.toList.getLast?, Text.isBlank c = false ∧ isTerminator c = false ∧ c ≠ ']'
  plain : ∀ name ∈ lexicon.cast, ∀ word ∈ Words.particles ++ ["a", "an"], Text.same (Words.initial name) word = false
  no_pronoun : ∀ name ∈ lexicon.cast, ∀ entry ∈ lexicon.pronouns.entries, ∀ word ∈ entry.2.cases,
    Text.same word (Words.initial name) = false
  apart : ∀ name ∈ lexicon.cast, ∀ other ∈ lexicon.cast, other ≠ name →
    Text.same (Words.initial name) (Words.initial other) = false
  lowercase_nodup : (lexicon.cast.map Text.lowercase).Nodup
  identifiers_nodup : (lexicon.cast.map identifierFor).Nodup
  /-- some word of each kind is no word of a name -/
  unreserved : ∀ word ∈ ["angel", "pig", "good", "big", "bad", "better", "worse"],
    Text.lowercase word ∉ (lexicon.cast.flatMap Text.words).map Text.lowercase

theorem standard_names : standard.NamesApart where
  words := by decide +kernel
  listed := by decide +kernel
  ends := by
    -- whether some character is the last one is not decided by trying all characters
    have plain : ∀ name ∈ standard.cast,
        (name.toList.getLast?.any fun c => !Text.isBlank c && !isTerminator c && c != ']') = true := by decide +kernel
    intro name hname
    obtain ⟨c, hc, h⟩ := (Option.any_eq_true _ _).1 (plain name hname)
    exact ⟨c, hc, by simpa [and_assoc] using h⟩
  plain := by decide +kernel
  no_pronoun := by decide +kernel
  apart := by decide +kernel
  lowercase_nodup := by decide +kernel
  identifiers_nodup := by decide +kernel
  unreserved := by decide +kernel

/-- no name begins with a word of the lexicon or an article -/
theorem standard_names_unlisted : ∀ name ∈ standardCast, standard.classify (Words.initial name) = none ∧
    ∀ article ∈ Phrase.articles, Text.same (Words.initial name) article = false := by decide +kernel

/-! ## The numerals -/

/-- how numerals are kept apart from each other -/
structure NumeralsApart (numerals : List String) : Prop where
  /-- one word each, also in front of a comma -/
  single : ∀ numeral ∈ numerals, Words.ofBody numeral = [numeral] ∧ Words.ofBody (numeral ++ ",") = [numeral, ","]
  apart : numerals.Pairwise fun a b => Text.same a b = false

theorem standard_numerals : NumeralsApart standardNumerals where
  single := by decide +kernel
  apart := by decide +kernel

/-- **Every numeral stands for its place** -/
theorem standardNumerals_first {i : Nat} {numeral : String} (h : standardNumerals[i]? = some numeral) :
    standardNumerals.findIdx? (fun other => Text.same other numeral) = some i := by
  obtain ⟨hi, rfl⟩ := List.getElem?_eq_some_iff.1 h
  rw [List.findIdx?_eq_some_iff_getElem]
  refine ⟨hi, Text.same_refl _, fun j hj => ?_⟩
  have := List.pairwise_iff_getElem.1 standard_numerals.apart j i (by omega) hi hj
  simp [this]

/-! ## What follows for single words -/

theorem standard_valid : standard.validate = .ok () := by rw [validate, standard_words.flawless]

/-- only the first-person pronoun has a capital letter -/
theorem standard_small_of_ne {word : String} {kind : WordKind} (h : (word, kind) ∈ standard.entries)
    (hk : kind ≠ .pronoun .speaker) : Text.lowercase word = word := by
  rcases standard_words.small _ h with rfl | hs
  · have hi : ("I", .pronoun .speaker) ∈ standard.entries := by decide
    have h1 := classify_of_mem_entries standard_valid h
    rw [classify_of_mem_entries standard_valid hi] at h1
    exact absurd (Option.some.inj h1).symm hk
  · exact hs

/-- a word in small letters means nothing if it is not listed -/
theorem standard_classify_eq_none {word : String} (small : Text.lowercase word = word) (notI : Text.lowercase "I" ≠ word)
    (h : ∀ entry ∈ standard.entries, entry.1 ≠ word) : standard.classify word = none := by
  simp only [classify, Option.map_eq_none_iff, List.find?_eq_none, beq_iff_eq, small]
  intro entry hentry hsame
  rcases standard_words.small entry hentry with hi | hs
  · rw [hi] at hsame
    exact notI hsame
  · rw [hs] at hsame
    exact h entry hentry hsame

theorem standard_personOf_article {article : String} (h : article ∈ ["a", "an"]) :
    standard.personOf article = none := by
  have hcase : article = "a" ∨ article = "an" := by simpa using h
  have unlisted : standard.classify article = none := by
    rcases hcase with rfl | rfl
    · exact standard_classify_eq_none (by decide) (by decide) fun entry h => (standard_words.no_article entry h).1
    · exact standard_classify_eq_none (by decide) (by decide) fun entry h => (standard_words.no_article entry h).2
  simp [personOf, unlisted]

end Playscript.Lexicon
