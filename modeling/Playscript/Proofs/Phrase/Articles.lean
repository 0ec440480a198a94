/-
Numbers in the words of any lexicon, and the articles in front of them.

Validation compares the words of a lexicon with each other and looks no further. Where its nouns and adjectives are one
word each, a number that is written down can still be misread in one way: an article stands where a phrase may also begin
with a pronoun or with a name.

- `NounPhrase.Impersonal`: phrases without pronouns and names, whose words are in no name; a number has no others
  (`spellInteger_impersonal`);
- `Vocabulary.Spares`: an article that is no pronoun and no name. Longer names need not be feared, since the word after
  an article is in none (`same_of_eatPhrase`);
- `readWithin_heard`: a phrase is read as it is, in small letters, if all its articles are spared, and else as a phrase
  about someone, which never stands for a number (`meaning_of_personal`);
- `readValue_spelled_iff`: so the numbers that are read as they were written are those whose articles are spared;
- `readValue_spelled_misread`: a valid lexicon with a noun of two words, and one with a name that is an article.
-/
import Playscript.Proofs.Phrase.Delimiting
import Playscript.Proofs.Phrase.Integers
import Playscript.Proofs.Text.Single
import Playscript.Proofs.Text.Small

namespace Playscript

namespace NounPhrase

/-- the nouns and adjectives of a phrase -/
def lexemes : NounPhrase → List String
  | .noun adjectives word => adjectives ++ [word]
  | .binary _ lhs rhs => lhs.lexemes ++ rhs.lexemes
  | .unary _ operand => operand.lexemes
  | .twice operand => operand.lexemes
  | _ => []

/-- the articles that a phrase is written with -/
def articles : NounPhrase → List String
  | .noun adjectives word => [articleFor (adjectives.headD word)]
  | .binary _ lhs rhs => lhs.articles ++ rhs.articles
  | .unary _ operand => operand.articles
  | .twice operand => operand.articles
  | _ => []

/-- the phrase with its nouns and adjectives in small letters -/
def small : NounPhrase → NounPhrase
  | .noun adjectives word => .noun (adjectives.map Text.lowercase) (Text.lowercase word)
  | .binary op lhs rhs => .binary op lhs.small rhs.small
  | .unary op operand => .unary op operand.small
  | .twice operand => .twice operand.small
  | phrase => phrase

/-- a phrase about someone: it has a pronoun or a name in it -/
def Personal : NounPhrase → Prop
  | .pronoun _ => True
  | .name _ => True
  | .binary _ lhs rhs => lhs.Personal ∨ rhs.Personal
  | .unary _ operand => operand.Personal
  | .twice operand => operand.Personal
  | _ => False

/-- a phrase without pronouns and names, made of words of the lexicon that are in no name of the cast -/
def Impersonal (lexicon : Lexicon) (cast : Cast) : NounPhrase → Prop
  | .nothing => True
  | .noun adjectives word =>
    (∃ polarity, (word, .noun polarity) ∈ lexicon.entries) ∧
      (∀ adjective ∈ adjectives, ∃ polarity, (adjective, .adjective polarity) ∈ lexicon.entries) ∧
      ∀ w ∈ adjectives ++ [word], Text.lowercase w ∉ cast.reserved
  | .pronoun _ => False
  | .name _ => False
  | .binary _ lhs rhs => lhs.Impersonal lexicon cast ∧ rhs.Impersonal lexicon cast
  | .unary _ operand => operand.Impersonal lexicon cast
  | .twice operand => operand.Impersonal lexicon cast

end NounPhrase

/-- an article that is neither a pronoun nor a name -/
structure Vocabulary.Spares (vocabulary : Vocabulary) (article : String) : Prop where
  no_pronoun : vocabulary.lexicon.personOf article = none
  no_name : ∀ name ∈ vocabulary.cast.names, ∀ word, Text.words name = [word] → Text.same article word = false

/-! ## The words chosen for a number -/

namespace Stock

variable {lexicon : Lexicon} {cast : Cast} {word : String}

/-- a word in stock is in no name -/
theorem unreserved {table : WordClass} (polarity : Polarity)
    (h : word ∈ (table.filter fun word => !cast.reserved.contains (Text.lowercase word)).words polarity) :
    Text.lowercase word ∉ cast.reserved := by
  have usable : (!cast.reserved.contains (Text.lowercase word)) = true := by
    cases polarity <;> exact (List.mem_filter.1 h).2
  simpa using usable

theorem unreserved_nounsFor {negative : Bool} (h : word ∈ (Stock.of lexicon cast).nounsFor negative) :
    Text.lowercase word ∉ cast.reserved := by
  cases negative with
  | true => exact unreserved .negative h
  | false =>
    rcases mem_orElse h with h | h
    · exact unreserved .positive h
    · exact unreserved .neutral h

theorem unreserved_adjectivesFor {polarity : Polarity} (h : word ∈ (Stock.of lexicon cast).adjectivesFor polarity) :
    Text.lowercase word ∉ cast.reserved := by
  rcases mem_orElse h with h | h
  · exact unreserved polarity h
  · exact unreserved .neutral h

end Stock

namespace Phrase

open Choosing

section Chosen

variable {lexicon : Lexicon} {cast : Cast} (n : Int64)

theorem spellAdjectives_unreserved (count : Nat) :
    Yields (spellAdjectives (Stock.of lexicon cast) n count) fun adjectives => ∀ adjective ∈ adjectives,
      (∃ polarity, (adjective, .adjective polarity) ∈ lexicon.entries) ∧ Text.lowercase adjective ∉ cast.reserved := by
  induction count with
  | zero => exact yields_pure nofun
  | succ count ih =>
    refine (yields_chooseOr _ _).bind fun adjective hadjective => ih.bind fun adjectives hall => ?_
    obtain ⟨polarity, hmem, -⟩ := Stock.mem_adjectivesFor hadjective
    refine yields_pure (List.forall_mem_cons.2 ⟨⟨⟨polarity, hmem⟩, ?_⟩, hall⟩)
    exact Stock.unreserved_adjectivesFor hadjective

theorem spellPower_impersonal (exponent : Nat) :
    Yields (spellPower (Stock.of lexicon cast) n exponent) (NounPhrase.Impersonal lexicon cast) := by
  refine (yields_chooseOr _ _).bind fun noun hnoun => (spellAdjectives_unreserved n exponent).bind fun adjectives h => ?_
  obtain ⟨polarity, hmem, -⟩ := Stock.mem_nounsFor hnoun
  apply yields_pure
  refine ⟨⟨polarity, hmem⟩, fun adjective ha => (h adjective ha).1, List.forall_mem_append.2 ⟨?_, ?_⟩⟩
  · exact fun adjective ha => (h adjective ha).2
  · exact List.forall_mem_singleton.2 (Stock.unreserved_nounsFor hnoun)

/-- **A number is spelled without pronouns and names**, in words that are in no name. -/
theorem spellInteger_impersonal :
    Yields (spellInteger (Stock.of lexicon cast) n) (NounPhrase.Impersonal lexicon cast) := by
  have bits : ∀ bits, Yields (spellBits (Stock.of lexicon cast) n bits) (NounPhrase.Impersonal lexicon cast) := by
    intro bits
    induction bits with
    | nil => exact yields_pure trivial
    | cons bit bits ih =>
      cases bits with
      | nil => exact spellPower_impersonal n bit
      | cons next bits =>
        exact (spellPower_impersonal n bit).bind fun lhs hl => ih.bind fun rhs hr => yields_pure ⟨hl, hr⟩
  exact bits _

end Chosen

/-! ## What is read -/

section Reading

variable {vocabulary : Vocabulary}

/-- **No name reaches beyond an article**: a name that is found there has no word but the article. -/
theorem same_of_eatPhrase {cast : Cast} {name : String} (hname : name ∈ cast.names) {article w : String}
    (hw : Text.lowercase w ∉ cast.reserved) {ws rest : Words}
    (h : Words.eatPhrase name (article :: w :: ws) = some rest) :
    ∃ word, Text.words name = [word] ∧ Text.same article word = true := by
  obtain ⟨hne, front, hfront, hcased⟩ := Words.eatPhrase_eq_some_iff.1 h
  match front with
  | [] => exact absurd (List.forall₂_nil_left_iff.1 hcased) hne
  | [first] =>
    obtain ⟨rfl, -⟩ := List.cons.inj hfront
    exact Words.Cased.singleton hcased
  | first :: second :: others =>
    -- the second word is none of a name
    obtain ⟨-, hothers⟩ := List.cons.inj hfront
    obtain ⟨rfl, -⟩ := List.cons.inj hothers
    obtain ⟨_, more, -, hmore, hwords⟩ := List.forall₂_cons_left_iff.1 hcased
    obtain ⟨next, last, hsame, -, rfl⟩ := List.forall₂_cons_left_iff.1 hmore
    have hmem : next ∈ cast.names.flatMap Text.words := List.mem_flatMap.2 ⟨name, hname, by simp [hwords]⟩
    exact absurd (Text.lowercase_congr hsame ▸ List.mem_map_of_mem hmem) hw

section Nouns

variable {adjectives : List String} {word article : String} (harticle : article = "a" ∨ article = "an")
include harticle

theorem articleFor_plain : ∀ particle ∈ Words.particles, Text.same article particle = false := by
  rcases harticle with rfl | rfl <;> decide

/-- a noun behind an article that is spared -/
theorem readWithin_noun_spared (hvalid : vocabulary.lexicon.validate = .ok ())
    (h : (NounPhrase.noun adjectives word).Impersonal vocabulary.lexicon vocabulary.cast)
    (spared : vocabulary.Spares article) (depth : Nat) (rest : Words) :
    readWithin vocabulary (depth + 1) (article :: (adjectives ++ word :: rest)) =
      .ok ((NounPhrase.noun adjectives word).small, rest) := by
  obtain ⟨⟨polarity, hn⟩, ha, unreserved⟩ := h
  have read := readNoun_cased ha hn (.refl adjectives) (Text.same_refl word) hvalid false rest
  have noName : Words.eatLongest vocabulary.cast.names (article :: (adjectives ++ word :: rest)) = none := by
    obtain ⟨w, more, hcons, hw⟩ : ∃ w more, adjectives ++ word :: rest = w :: more ∧ w ∈ adjectives ++ [word] := by
      cases adjectives with
      | nil => exact ⟨word, rest, rfl, List.mem_singleton_self word⟩
      | cons adjective adjectives => exact ⟨adjective, _, rfl, List.mem_cons_self⟩
    rw [hcons]
    apply Words.eatLongest_eq_none
    intro name hname
    by_contra hfound
    obtain ⟨left, hleft⟩ := Option.ne_none_iff_exists'.1 hfound
    obtain ⟨only, honly, hsame⟩ := same_of_eatPhrase hname (unreserved w hw) hleft
    rw [spared.no_name name hname only honly] at hsame
    cases hsame
  have eaten : ∀ ws, eatArticle (article :: ws) = (false, ws) := by
    rcases harticle with rfl | rfl <;> intro ws <;> rfl
  rw [readWithin_of_plain vocabulary (articleFor_plain harticle), noName]
  simp only [readPlain, List.head?_cons, Option.filter_some, spared.no_pronoun, Option.isSome_none, Bool.false_eq_true,
    if_false, eaten, read]
  rfl

/-- whatever follows an article that is not spared, it is taken for someone -/
theorem readWithin_noun_taken (taken : ¬vocabulary.Spares article) (depth : Nat) (ws : Words) :
    Gives (readWithin vocabulary (depth + 1) (article :: ws)) fun found => found.1.Personal := by
  rw [readWithin_of_plain vocabulary (articleFor_plain harticle)]
  cases hfound : Words.eatLongest vocabulary.cast.names (article :: ws) with
  | some found => exact gives_ok trivial
  | none =>
    have person : (vocabulary.lexicon.personOf article).isSome = true := by
      rw [← Option.ne_none_iff_isSome]
      intro hnone
      refine taken ⟨hnone, fun name hname only honly => ?_⟩
      rw [← Bool.not_eq_true]
      intro hsame
      have comes : Words.eatPhrase name (article :: ws) = some ws := by
        simp [Words.eatPhrase, honly, Words.eatAll, Words.eat_eq_some hsame]
      rw [Words.eatLongest_eq_none_iff.1 hfound name hname] at comes
      cases comes
    simp only [readPlain, List.head?_cons, Option.filter_some, person, if_true]
    exact gives_ok trivial

end Nouns

/-! ### Whole phrases -/

/-- how a phrase is heard: as it is, in small letters, if all its articles are spared, and else as a phrase about
someone, if it is understood at all -/
inductive Heard (vocabulary : Vocabulary) (phrase : NounPhrase) (rest : Words) :
    Except (Stopped PhraseError) (NounPhrase × Words) → Prop
  | spared {answer : Except (Stopped PhraseError) (NounPhrase × Words)} :
    (∀ article ∈ phrase.articles, vocabulary.Spares article) → answer = .ok (phrase.small, rest) →
    Heard vocabulary phrase rest answer
  | taken {answer : Except (Stopped PhraseError) (NounPhrase × Words)} :
    (∃ article ∈ phrase.articles, ¬vocabulary.Spares article) → Gives answer (fun found => found.1.Personal) →
    Heard vocabulary phrase rest answer

/-- **The articles decide how a phrase is heard**, if its nouns and adjectives are one word each. -/
theorem readWithin_heard (hvalid : vocabulary.lexicon.validate = .ok ()) {phrase : NounPhrase}
    (h : phrase.Impersonal vocabulary.lexicon vocabulary.cast) (single : ∀ w ∈ phrase.lexemes, Words.ofBody w = [w])
    {depth : Nat} (hd : phrase.words.length ≤ depth) (rest : Words) :
    Heard vocabulary phrase rest (readWithin vocabulary depth (phrase.words ++ rest)) := by
  induction phrase generalizing depth rest with
  | nothing =>
    rw [NounPhrase.words_nothing] at hd ⊢
    obtain ⟨d, rfl⟩ : ∃ d, depth = d + 1 := ⟨depth - 1, by simp at hd; omega⟩
    exact .spared nofun rfl
  | noun adjectives word =>
    obtain ⟨ha, hn⟩ := List.forall_mem_append.1 single
    rw [NounPhrase.words_noun (hn word (List.mem_singleton_self word)) ha] at hd ⊢
    obtain ⟨d, rfl⟩ : ∃ d, depth = d + 1 := ⟨depth - 1, by simp at hd; omega⟩
    have harticle := articleFor_mem (adjectives.headD word)
    by_cases spares : vocabulary.Spares (articleFor (adjectives.headD word))
    · refine .spared (List.forall_mem_singleton.2 spares) ?_
      rw [List.cons_append, List.append_assoc, List.singleton_append]
      exact readWithin_noun_spared harticle hvalid h spares d rest
    · exact .taken ⟨_, List.mem_singleton_self _, spares⟩ (readWithin_noun_taken harticle spares d _)
  | pronoun word => cases h
  | name called => cases h
  | binary op lhs rhs ihl ihr =>
    obtain ⟨hl, hr⟩ := h
    obtain ⟨singleL, singleR⟩ := List.forall_mem_append.1 single
    rw [NounPhrase.words_binary] at hd ⊢
    simp only [List.length_append, List.length_cons] at hd
    obtain ⟨d, rfl⟩ : ∃ d, depth = d + 1 := ⟨depth - 1, by omega⟩
    have hpos : 0 < (Words.ofBody op.opening).length := by cases op <;> decide
    have left : Heard vocabulary lhs _ (readWithin vocabulary d (lhs.words ++ "and" :: (rhs.words ++ rest))) :=
      ihl hl singleL (by omega) _
    have right : Heard vocabulary rhs rest (readWithin vocabulary d (rhs.words ++ rest)) :=
      ihr hr singleR (by omega) rest
    have hand : Words.expect PhraseError.mismatch "and" ("and" :: (rhs.words ++ rest)) = .ok (rhs.words ++ rest) := rfl
    simp only [List.append_assoc, List.cons_append]
    rw [readWithin_binary]
    cases left with
    | taken takenL personal =>
      obtain ⟨article, hmem, htaken⟩ := takenL
      refine .taken ⟨article, List.mem_append_left _ hmem, htaken⟩ (personal.bind fun found hfound => ?_)
      exact gives_after _ fun after => gives_after _ fun found' => gives_ok (.inl hfound)
    | spared sparedL hleft =>
      -- the left side is read as it is, so the right side is met where it begins
      simp only [hleft, bind, Except.bind, hand]
      cases right with
      | taken takenR personal =>
        obtain ⟨article, hmem, htaken⟩ := takenR
        refine .taken ⟨article, List.mem_append_right _ hmem, htaken⟩ ?_
        exact personal.bind fun found hfound => gives_ok (.inr hfound)
      | spared sparedR hright =>
        refine .spared (List.forall_mem_append.2 ⟨sparedL, sparedR⟩) ?_
        rw [hright]
        rfl
  | unary op operand ih =>
    rw [NounPhrase.words_unary] at hd ⊢
    rw [List.length_append] at hd
    have hpos : 0 < (Words.ofBody op.opening).length := by cases op <;> decide
    obtain ⟨d, rfl⟩ : ∃ d, depth = d + 1 := ⟨depth - 1, by omega⟩
    have inner : Heard vocabulary operand rest (readWithin vocabulary d (operand.words ++ rest)) :=
      ih h single (by omega) rest
    rw [List.append_assoc, readWithin_unary]
    cases inner with
    | taken taken personal => exact .taken taken (personal.bind fun found hfound => gives_ok hfound)
    | spared spared hinner =>
      rw [hinner]
      exact .spared spared rfl
  | twice operand ih =>
    rw [NounPhrase.words_twice] at hd ⊢
    rw [List.length_cons] at hd
    obtain ⟨d, rfl⟩ : ∃ d, depth = d + 1 := ⟨depth - 1, by omega⟩
    have inner : Heard vocabulary operand rest (readWithin vocabulary d (operand.words ++ rest)) :=
      ih h single (by omega) rest
    rw [List.cons_append, readWithin_twice]
    cases inner with
    | taken taken personal => exact .taken taken (personal.bind fun found hfound => gives_ok hfound)
    | spared spared hinner =>
      rw [hinner]
      exact .spared spared rfl

/-! ## What is understood -/

/-- values fold only into what was a constant on both sides -/
theorem combine_ne_constant {op : BinaryOp} {lhs rhs : Value}
    (h : (∀ n, lhs ≠ .constant n) ∨ ∀ n, rhs ≠ .constant n) (n : Int64) : Value.combine op lhs rhs ≠ .constant n := by
  unfold Value.combine
  split
  · rename_i a b
    rcases h with h | h
    · exact absurd rfl (h a)
    · exact absurd rfl (h b)
  · nofun

/-- **A phrase about someone never stands for a number.** -/
theorem meaning_of_personal {phrase : NounPhrase} (h : phrase.Personal) :
    Gives (meaning vocabulary phrase) fun value => ∀ n, value ≠ .constant n := by
  induction phrase with
  | nothing => cases h
  | noun adjectives word => cases h
  | pronoun word =>
    rw [meaning]
    split
    · exact gives_ok fun n h => by cases h
    · exact gives_error _ _
  | name called =>
    rw [meaning]
    split
    · exact gives_ok fun n h => by cases h
    · exact gives_error _ _
  | binary op lhs rhs ihl ihr =>
    rw [meaning]
    rcases h with h | h
    · refine (ihl h).bind fun left hleft => gives_after _ fun right => ?_
      exact gives_ok (combine_ne_constant (.inl hleft))
    · refine gives_after _ fun left => (ihr h).bind fun right hright => ?_
      exact gives_ok (combine_ne_constant (.inr hright))
  | unary op operand ih => exact gives_after _ fun value => gives_ok fun n h => by cases h
  | twice operand ih => exact gives_after _ fun value => gives_ok fun n h => by cases h

theorem checkAdjectives_small {lexicon : Lexicon} {noun : String} {polarity : Polarity} {adjectives : List String}
    (h : checkAdjectives lexicon noun polarity adjectives = .ok ()) (noun' : String) :
    checkAdjectives lexicon noun' polarity (adjectives.map Text.lowercase) = .ok () := by
  induction adjectives with
  | nil => rfl
  | cons adjective adjectives ih =>
    have same : lexicon.adjectivePolarity (Text.lowercase adjective) = lexicon.adjectivePolarity adjective := by
      rw [Lexicon.adjectivePolarity, Lexicon.adjectivePolarity, Lexicon.classify_lowercase]
    rw [List.map_cons, checkAdjectives, same]
    rw [checkAdjectives] at h
    cases hp : lexicon.adjectivePolarity adjective with
    | none => simp [hp] at h
    | some p =>
      cases hagrees : p.agreesWith polarity with
      | false => simp [hp, hagrees] at h
      | true =>
        simp only [hp, hagrees, if_true] at h ⊢
        exact ih h

theorem nounWorth_small {lexicon : Lexicon} {adjectives : List String} {noun : String} {worth : Int64}
    (h : nounWorth lexicon adjectives noun = .ok worth) :
    nounWorth lexicon (adjectives.map Text.lowercase) (Text.lowercase noun) = .ok worth := by
  have same : lexicon.nounPolarity (Text.lowercase noun) = lexicon.nounPolarity noun := by
    rw [Lexicon.nounPolarity, Lexicon.nounPolarity, Lexicon.classify_lowercase]
  rw [nounWorth, same, List.length_map]
  rw [nounWorth] at h
  cases hp : lexicon.nounPolarity noun with
  | none => simp [hp] at h
  | some polarity =>
    simp only [hp] at h ⊢
    obtain ⟨⟨⟩, hchecked, hworth⟩ := bind_eq_ok.1 h
    exact bind_eq_ok.2 ⟨(), checkAdjectives_small hchecked _, hworth⟩

/-- **In small letters a phrase means the same.** -/
theorem meaning_small (phrase : NounPhrase) :
    Refines (· = ·) (meaning vocabulary phrase) (meaning vocabulary phrase.small) := by
  induction phrase with
  | nothing => exact refines_ok rfl
  | noun adjectives word =>
    have worth : Refines (· = ·) (nounWorth vocabulary.lexicon adjectives word)
        (nounWorth vocabulary.lexicon (adjectives.map Text.lowercase) (Text.lowercase word)) :=
      fun worth hworth => ⟨worth, nounWorth_small hworth, rfl⟩
    refine worth.bind fun value value' hvalue => refines_ok ?_
    rw [hvalue]
  | pronoun word => exact fun value hvalue => ⟨value, hvalue, rfl⟩
  | name called => exact fun value hvalue => ⟨value, hvalue, rfl⟩
  | binary op lhs rhs ihl ihr =>
    refine ihl.bind fun left left' hleft => ihr.bind fun right right' hright => refines_ok ?_
    rw [hleft, hright]
  | unary op operand ih =>
    refine ih.bind fun value value' hvalue => refines_ok ?_
    rw [hvalue]
  | twice operand ih =>
    refine ih.bind fun value value' hvalue => refines_ok ?_
    rw [hvalue]

end Reading

/-! ## What is written -/

theorem exists_intercalate_concat (ws : List String) (word : String) :
    ∃ before, " ".intercalate (ws ++ [word]) = before ++ word := by
  induction ws with
  | nil => exact ⟨"", by simp⟩
  | cons w ws ih =>
    obtain ⟨before, hbefore⟩ := ih
    obtain ⟨next, more, hcons⟩ : ∃ next more, ws ++ [word] = next :: more := by cases ws <;> simp
    rw [List.cons_append, hcons, String.intercalate_cons_cons, ← hcons, hbefore]
    exact ⟨w ++ " " ++ before, by simp [String.append_assoc]⟩

/-- a phrase ends as the last of its words does -/
theorem endsBare_text {lexicon : Lexicon} {cast : Cast} {phrase : NounPhrase} (h : phrase.Impersonal lexicon cast)
    (bare : ∀ w ∈ phrase.lexemes, Words.EndsBare w) : Words.EndsBare phrase.text := by
  induction phrase with
  | nothing => exact ⟨'g', rfl, by decide, by decide⟩
  | noun adjectives word =>
    obtain ⟨before, hbefore⟩ := exists_intercalate_concat (articleFor (adjectives.headD word) :: adjectives) word
    rw [NounPhrase.text, hbefore]
    exact (bare word (List.mem_append_right _ (List.mem_singleton_self word))).append before
  | pronoun word => cases h
  | name called => cases h
  | binary op lhs rhs ihl ihr =>
    exact (ihr h.2 fun w hw => bare w (List.mem_append_right _ hw)).append _
  | unary op operand ih => exact (ih h bare).append _
  | twice operand ih => exact (ih h bare).append _

/-! ## Numbers -/

/-- **The numbers that are read as they were written**, in the words of any valid lexicon and with any cast. If the nouns
and adjectives of its phrase are one word each, a number is read back from its text, to the last word, exactly if no
article in it is a pronoun of the lexicon or all of a character's name. -/
theorem readValue_spelled_iff {lexicon : Lexicon} (hvalid : lexicon.validate = .ok ()) (cast : Cast) (g : Generator)
    (n : Int64) {phrase : NounPhrase} (h : (spellInteger (Stock.of lexicon cast) n g).1 = .ok phrase)
    (single : ∀ word ∈ phrase.lexemes, Words.ofText word = [word]) :
    readValue (Vocabulary.of lexicon cast) (Words.ofText phrase.text) = .ok (.constant n, []) ↔
      ∀ article ∈ phrase.articles, (Vocabulary.of lexicon cast).Spares article := by
  have impersonal := spellInteger_impersonal n g phrase h
  have means := (spellInteger_yields hvalid n g phrase h).2 (Vocabulary.of lexicon cast) rfl
  have words : Words.ofText phrase.text = phrase.words :=
    (endsBare_text impersonal fun w hw => Words.endsBare_of_ofText (single w hw)).ofText
  have heard : Heard (Vocabulary.of lexicon cast) phrase []
      (readWithin (Vocabulary.of lexicon cast) phrase.words.length (phrase.words ++ [])) :=
    readWithin_heard hvalid impersonal (fun w hw => Words.ofBody_of_ofText (single w hw)) (le_refl _) []
  rw [List.append_nil] at heard
  rw [words]
  cases heard with
  | spared spared hread =>
    refine iff_of_true ?_ spared
    obtain ⟨value, hvalue, rfl⟩ := meaning_small phrase _ means
    simp only [readValue, read, hread, bind, Except.bind, hvalue]
    rfl
  | taken taken personal =>
    refine iff_of_false (fun hread => ?_) (by push Not; exact taken)
    obtain ⟨⟨found, rest⟩, hfound, hvalue⟩ := bind_eq_ok.1 hread
    dsimp only at hvalue
    cases hmeaning : meaning (Vocabulary.of lexicon cast) found with
    | error cause =>
      rw [hmeaning] at hvalue
      cases hvalue
    | ok value =>
      rw [hmeaning] at hvalue
      cases hvalue
      exact meaning_of_personal (personal _ hfound) _ hmeaning n rfl

/-- minus seven in words that look like those around them: read back beside a name that begins with an article, and not
beside a name that is one -/
theorem readValue_spelled_iff_and :
    let lexicon : Lexicon := ⟨⟨["cat"], ["stone"], ["And"]⟩, ⟨[], ["Énorme"], []⟩, ⟨["better"], ["worse"]⟩,
      ⟨[⟨"I", "me", "myself", "am"⟩], [⟨"you", "you", "yourself", "are"⟩]⟩, ["I"], ["A Cat", "An"]⟩
    let one : Cast := ⟨["An"], [(⟨"a"⟩, "A Cat")]⟩
    let two : Cast := ⟨[], [(⟨"a"⟩, "A Cat"), (⟨"b"⟩, "An")]⟩
    let phrase : NounPhrase := .binary .add (.noun ["Énorme", "Énorme"] "And")
      (.binary .add (.noun ["Énorme"] "And") (.noun [] "And"))
    lexicon.validate = .ok () ∧ (∀ word ∈ phrase.lexemes, Words.ofText word = [word]) ∧
      phrase.text = "the sum of a Énorme Énorme And and the sum of a Énorme And and an And" ∧
      ((Cast.ofLexicon lexicon).allocateAll [⟨"a"⟩] = .ok one ∧
        (spellInteger (Stock.of lexicon one) (-7) (Generator.ofSeed 1)).1 = .ok phrase ∧
        readValue (Vocabulary.of lexicon one) (Words.ofText phrase.text) = .ok (.constant (-7), [])) ∧
      (Cast.ofLexicon lexicon).allocateAll [⟨"a"⟩, ⟨"b"⟩] = .ok two ∧
        (spellInteger (Stock.of lexicon two) (-7) (Generator.ofSeed 1)).1 = .ok phrase ∧
        readValue (Vocabulary.of lexicon two) (Words.ofText phrase.text) ≠ .ok (.constant (-7), []) := by
  intro lexicon one two phrase
  have hvalid : lexicon.validate = .ok () := eq_ok_of_toOption (by decide)
  have single : ∀ word ∈ phrase.lexemes, Words.ofText word = [word] := by decide
  have spelledOne : (spellInteger (Stock.of lexicon one) (-7) (Generator.ofSeed 1)).1 = .ok phrase :=
    eq_ok_of_toOption (by decide)
  have spelledTwo : (spellInteger (Stock.of lexicon two) (-7) (Generator.ofSeed 1)).1 = .ok phrase :=
    eq_ok_of_toOption (by decide)
  have spared : ∀ article ∈ phrase.articles, (Vocabulary.of lexicon one).Spares article := by
    have pronouns : ∀ article ∈ phrase.articles, lexicon.personOf article = none := by decide
    have words : Text.words "A Cat" = ["A", "Cat"] := by decide
    intro article harticle
    refine ⟨pronouns article harticle, fun name hname word hword => ?_⟩
    rw [List.mem_singleton.1 hname, words] at hword
    cases hword
  have taken : ¬(Vocabulary.of lexicon two).Spares "an" := by
    intro spares
    have apart : Text.same "an" "An" = false := spares.no_name "An" (by decide) "An" (by decide)
    exact absurd apart (by decide)
  have read := (readValue_spelled_iff hvalid one (Generator.ofSeed 1) (-7) spelledOne single).2 spared
  have misread : readValue (Vocabulary.of lexicon two) (Words.ofText phrase.text) ≠ .ok (.constant (-7), []) := by
    intro hread
    have spares := (readValue_spelled_iff hvalid two (Generator.ofSeed 1) (-7) spelledTwo single).1 hread
    exact taken (spares "an" (by decide))
  exact ⟨hvalid, single, by decide, ⟨eq_ok_of_toOption (by decide), spelledOne, read⟩,
    eq_ok_of_toOption (by decide), spelledTwo, misread⟩

/-- **A valid lexicon can spell a number that is not read back.** A noun of two words is unknown by its first, and an
article in front of any noun is the name of the character called so. -/
theorem readValue_spelled_misread :
    let lexicon : Lexicon := ⟨⟨["sea horse"], ["stone"], ["pig"]⟩, ⟨["good"], ["big"], ["bad"]⟩, ⟨["better"], ["worse"]⟩,
      ⟨[⟨"I", "me", "myself", "am"⟩], [⟨"you", "you", "yourself", "are"⟩]⟩, ["I"], ["A", "Romeo"]⟩
    let nobody := Cast.ofLexicon lexicon
    let someone : Cast := ⟨["Romeo"], [(⟨"a"⟩, "A")]⟩
    lexicon.validate = .ok () ∧ nobody.allocateAll [⟨"a"⟩] = .ok someone ∧
      (spellInteger (Stock.of lexicon nobody) 1 (Generator.ofSeed 0)).1 = .ok (.noun [] "sea horse") ∧
      readValue (Vocabulary.of lexicon nobody) (Words.ofText (NounPhrase.noun [] "sea horse").text) =
        .error ⟨.unknownWord "sea", ["sea", "horse"]⟩ ∧
      (spellInteger (Stock.of lexicon someone) (-1) (Generator.ofSeed 0)).1 = .ok (.noun [] "pig") ∧
      readValue (Vocabulary.of lexicon someone) (Words.ofText (NounPhrase.noun [] "pig").text) =
        .ok (.character ⟨"a"⟩, ["pig"]) := by
  intro lexicon nobody someone
  refine ⟨eq_ok_of_toOption ?_, eq_ok_of_toOption ?_, eq_ok_of_toOption ?_, rfl, eq_ok_of_toOption ?_,
    eq_ok_of_toOption ?_⟩
  all_goals decide

end Phrase

end Playscript
