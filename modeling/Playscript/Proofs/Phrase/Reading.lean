/-
Noun phrases are read back from their words, whatever words follow.

- `NounPhrase.words`: the words that a phrase is written with, and what they are for each kind of phrase;
- `NounPhrase.Over`: a phrase made of a lexicon's words and of given names;
- `Vocabulary.Readable`: what keeps the words of a vocabulary and the names of its cast apart. No word of it opens an
  operator phrase, no name begins with a pronoun or an article, and no two names begin with the same word;
- `readWithin_words`: with a readable vocabulary, reading the words of a phrase gives the phrase and leaves what
  follows, at any depth that is no less than their number.
-/
import Playscript.Phrase.Reading
import Playscript.Proofs.Lexicon.Classification
import Playscript.Proofs.Text.Eating
import Mathlib.Tactic.SplitIfs

namespace Playscript

namespace Words

theorem ofBody_append_and (s t : String) : ofBody (s ++ " and " ++ t) = ofBody s ++ "and" :: ofBody t := by
  have hand : " and " = " " ++ "and" ++ " " := by decide
  have hword : ofBody "and" = ["and"] := by decide
  rw [hand, ← String.append_assoc, ← String.append_assoc, ofBody_append_space, ofBody_append_space, hword,
    List.append_assoc, List.singleton_append]

theorem ofBody_intercalate (first : String) (rest : List String) :
    ofBody (" ".intercalate (first :: rest)) = ofBody first ++ rest.flatMap ofBody := by
  induction rest generalizing first with
  | nil => simp
  | cons word rest ih => rw [String.intercalate_cons_cons, ofBody_append_space, ih, List.flatMap_cons]

theorem flatMap_ofBody {ws : List String} (h : ∀ w ∈ ws, ofBody w = [w]) : ws.flatMap ofBody = ws := by
  induction ws with
  | nil => rfl
  | cons w ws ih =>
    rw [List.flatMap_cons, h w List.mem_cons_self, ih fun v hv => h v (List.mem_cons_of_mem w hv)]
    rfl

end Words

theorem articleFor_mem (word : String) : articleFor word = "a" ∨ articleFor word = "an" := by
  unfold articleFor
  dsimp only
  split_ifs
  · exact .inr rfl
  · exact .inl rfl
  · split
    · split_ifs
      · exact .inr rfl
      · exact .inl rfl
    · exact .inl rfl

namespace NounPhrase

/-- the words that a phrase is written with -/
def words (phrase : NounPhrase) : Words := Words.ofBody phrase.text

/-- a phrase made of the words of a lexicon and the given names -/
def Over (lexicon : Lexicon) (names : List String) : NounPhrase → Prop
  | .nothing => True
  | .noun adjectives word =>
    (∃ polarity, (word, .noun polarity) ∈ lexicon.entries) ∧
      ∀ adjective ∈ adjectives, ∃ polarity, (adjective, .adjective polarity) ∈ lexicon.entries
  | .pronoun word => ∃ role, (word, .pronoun role) ∈ lexicon.entries
  | .name called => called ∈ names
  | .binary _ lhs rhs => lhs.Over lexicon names ∧ rhs.Over lexicon names
  | .unary _ operand => operand.Over lexicon names
  | .twice operand => operand.Over lexicon names

theorem words_nothing : nothing.words = ["nothing"] := by decide

theorem words_binary (op : BinaryOp) (lhs rhs : NounPhrase) :
    (binary op lhs rhs).words = Words.ofBody op.opening ++ (lhs.words ++ "and" :: rhs.words) := by
  rw [words, text, Words.ofBody_append_and, Words.ofBody_append_space, List.append_assoc]
  rfl

theorem words_unary (op : UnaryOp) (operand : NounPhrase) :
    (unary op operand).words = Words.ofBody op.opening ++ operand.words := by
  rw [words, text, Words.ofBody_append_space]
  rfl

theorem words_twice (operand : NounPhrase) : (twice operand).words = "twice" :: operand.words := by
  have hsplit : "twice " = "twice" ++ " " := by decide
  have hword : Words.ofBody "twice" = ["twice"] := by decide
  rw [words, text, hsplit, Words.ofBody_append_space, hword]
  rfl

theorem words_noun {adjectives : List String} {word : String} (hn : Words.ofBody word = [word])
    (ha : ∀ adjective ∈ adjectives, Words.ofBody adjective = [adjective]) :
    (noun adjectives word).words = articleFor (adjectives.headD word) :: (adjectives ++ [word]) := by
  have article : Words.ofBody (articleFor (adjectives.headD word)) = [articleFor (adjectives.headD word)] := by
    rcases articleFor_mem (adjectives.headD word) with h | h <;> rw [h] <;> decide
  have rest : (adjectives ++ [word]).flatMap Words.ofBody = adjectives ++ [word] := by
    refine Words.flatMap_ofBody fun w hw => ?_
    rcases List.mem_append.1 hw with h | h
    · exact ha w h
    · rw [List.mem_singleton.1 h, hn]
  rw [words, text, List.cons_append, Words.ofBody_intercalate, article, rest, List.singleton_append]

end NounPhrase

/-- **A vocabulary that keeps its words apart**: no reader can take a word or a name of it for another -/
structure Vocabulary.Readable (vocabulary : Vocabulary) : Prop where
  valid : vocabulary.lexicon.validate = .ok ()
  /-- every entry is one word, without a comma -/
  single : ∀ entry ∈ vocabulary.lexicon.entries, Words.ofBody entry.1 = [entry.1]
  small_noun : ∀ word polarity, (word, .noun polarity) ∈ vocabulary.lexicon.entries → Text.lowercase word = word
  small_adjective : ∀ word polarity, (word, .adjective polarity) ∈ vocabulary.lexicon.entries →
    Text.lowercase word = word
  pronoun_plain : ∀ word role, (word, .pronoun role) ∈ vocabulary.lexicon.entries →
    ∀ particle ∈ Words.particles, Text.same word particle = false
  article_plain : ∀ article ∈ ["a", "an"], vocabulary.lexicon.personOf article = none
  name_words : ∀ name ∈ vocabulary.cast.names, Text.words name ≠ [] ∧ Words.ofBody name = Text.words name
  name_plain : ∀ name ∈ vocabulary.cast.names, ∀ particle ∈ Words.particles,
    Text.same (Words.initial name) particle = false
  article_apart : ∀ name ∈ vocabulary.cast.names, ∀ article ∈ ["a", "an"],
    Text.same article (Words.initial name) = false
  pronoun_apart : ∀ name ∈ vocabulary.cast.names, ∀ word role, (word, .pronoun role) ∈ vocabulary.lexicon.entries →
    Text.same word (Words.initial name) = false
  names_apart : ∀ name ∈ vocabulary.cast.names, ∀ other ∈ vocabulary.cast.names, other ≠ name →
    Text.same (Words.initial name) (Words.initial other) = false

namespace Phrase

variable {vocabulary : Vocabulary}

/-! ## One step of the reader -/

theorem eatOpening_eq_none {Op : Type} {opening : Op → String} {ops : List Op} {w : String}
    (hops : ∀ op ∈ ops, Words.initial (opening op) = "the") (hw : Text.same w "the" = false) (ws : Words) :
    eatOpening opening ops (w :: ws) = none := by
  rw [eatOpening, List.findSome?_eq_none_iff]
  intro op hop
  rw [Words.eatPhrase_eq_none (by rw [hops op hop]; exact hw)]
  rfl

/-- a phrase that opens with no particle is a name or a plain phrase -/
theorem readWithin_of_plain (vocabulary : Vocabulary) {w : String}
    (hw : ∀ particle ∈ Words.particles, Text.same w particle = false) (depth : Nat) (ws : Words) :
    readWithin vocabulary (depth + 1) (w :: ws) =
      match Words.eatLongest vocabulary.cast.names (w :: ws) with
      | some (name, rest) => .ok (.name name, rest)
      | none => readPlain vocabulary.lexicon (w :: ws) := by
  have hthe : Text.same w "the" = false := hw "the" (by decide)
  rw [readWithin, Words.eat_eq_none (hw "nothing" (by decide)), Words.eat_eq_none (hw "zero" (by decide)),
    Words.eat_eq_none (hw "twice" (by decide)), eatOpening_eq_none (by decide) hthe,
    eatOpening_eq_none (by decide) hthe]
  rfl

theorem readWithin_binary (vocabulary : Vocabulary) (depth : Nat) (op : BinaryOp) (ws : Words) :
    readWithin vocabulary (depth + 1) (Words.ofBody op.opening ++ ws) = (do
      let (lhs, rest) ← readWithin vocabulary depth ws
      let rest ← Words.expect .mismatch "and" rest
      let (rhs, rest) ← readWithin vocabulary depth rest
      return (.binary op lhs rhs, rest)) := by
  cases op <;> rfl

theorem readWithin_unary (vocabulary : Vocabulary) (depth : Nat) (op : UnaryOp) (ws : Words) :
    readWithin vocabulary (depth + 1) (Words.ofBody op.opening ++ ws) = (do
      let (operand, rest) ← readWithin vocabulary depth ws
      return (.unary op operand, rest)) := by
  cases op <;> rfl

theorem readWithin_twice (vocabulary : Vocabulary) (depth : Nat) (ws : Words) :
    readWithin vocabulary (depth + 1) ("twice" :: ws) = (do
      let (operand, rest) ← readWithin vocabulary depth ws
      return (.twice operand, rest)) := rfl

/-- the name that comes next is found among the names of the cast -/
theorem eatLongest_name (hv : vocabulary.Readable) {name : String} (hn : name ∈ vocabulary.cast.names) (rest : Words) :
    Words.eatLongest vocabulary.cast.names (Text.words name ++ rest) = some (name, rest) := by
  obtain ⟨hne, hwords⟩ := hv.name_words name hn
  refine Words.eatLongest_eq_some hn (Words.eatPhrase_words hne rest) fun other ho e => ?_
  have happart := hv.names_apart name hn other ho e
  cases hw : Text.words name with
  | nil => exact absurd hw hne
  | cons first more =>
    rw [Words.initial, hw] at happart
    exact Words.eatPhrase_eq_none happart _

theorem readWithin_name (hv : vocabulary.Readable) {name : String} (hn : name ∈ vocabulary.cast.names)
    (depth : Nat) (rest : Words) :
    readWithin vocabulary (depth + 1) (Words.ofBody name ++ rest) = .ok (.name name, rest) := by
  obtain ⟨hne, hwords⟩ := hv.name_words name hn
  have found := eatLongest_name hv hn rest
  have hplain := hv.name_plain name hn
  rw [hwords]
  cases hw : Text.words name with
  | nil => exact absurd hw hne
  | cons first more =>
    rw [hw, List.cons_append] at found
    rw [Words.initial, hw, List.headD_cons] at hplain
    rw [List.cons_append, readWithin_of_plain vocabulary hplain, found]

theorem readWithin_pronoun (hv : vocabulary.Readable) {word : String} {role : Role}
    (hw : (word, .pronoun role) ∈ vocabulary.lexicon.entries) (depth : Nat) (rest : Words) :
    readWithin vocabulary (depth + 1) (word :: rest) = .ok (.pronoun word, rest) := by
  have noName : Words.eatLongest vocabulary.cast.names (word :: rest) = none :=
    Words.eatLongest_eq_none fun name hn => Words.eatPhrase_eq_none (hv.pronoun_apart name hn word role hw) rest
  have person : (vocabulary.lexicon.personOf word).isSome = true := by simp [Lexicon.personOf_of_mem hv.valid hw]
  rw [readWithin_of_plain vocabulary (hv.pronoun_plain word role hw), noName]
  simp only [readPlain, List.head?_cons, Option.filter_some, person, if_true, List.tail_cons]

theorem readNoun_words (hv : vocabulary.Readable) {adjectives : List String} {noun : String}
    (ha : ∀ adjective ∈ adjectives, ∃ polarity, (adjective, .adjective polarity) ∈ vocabulary.lexicon.entries)
    {polarity : Polarity} (hn : (noun, .noun polarity) ∈ vocabulary.lexicon.entries) (bare : Bool) (rest : Words) :
    readNoun vocabulary.lexicon bare (adjectives ++ noun :: rest) = .ok ((adjectives, noun), rest) := by
  induction adjectives generalizing bare with
  | nil =>
    rw [List.nil_append, readNoun, Lexicon.classify_of_mem_entries hv.valid hn]
    simp only [hv.small_noun noun polarity hn]
  | cons adjective adjectives ih =>
    obtain ⟨p, hp⟩ := ha adjective List.mem_cons_self
    rw [List.cons_append, readNoun, Lexicon.classify_of_mem_entries hv.valid hp]
    simp only [hv.small_adjective adjective p hp]
    rw [ih (fun a h => ha a (List.mem_cons_of_mem adjective h)) false]
    rfl

theorem readWithin_noun (hv : vocabulary.Readable) {adjectives : List String} {noun article : String}
    (ha : ∀ adjective ∈ adjectives, ∃ polarity, (adjective, .adjective polarity) ∈ vocabulary.lexicon.entries)
    {polarity : Polarity} (hn : (noun, .noun polarity) ∈ vocabulary.lexicon.entries)
    (harticle : article = "a" ∨ article = "an") (depth : Nat) (rest : Words) :
    readWithin vocabulary (depth + 1) (article :: (adjectives ++ noun :: rest)) =
      .ok (.noun adjectives noun, rest) := by
  have hmem : article ∈ ["a", "an"] := by rcases harticle with rfl | rfl <;> simp
  have plain : ∀ particle ∈ Words.particles, Text.same article particle = false := by
    rcases harticle with rfl | rfl <;> decide
  have noName : Words.eatLongest vocabulary.cast.names (article :: (adjectives ++ noun :: rest)) = none :=
    Words.eatLongest_eq_none fun name hname => Words.eatPhrase_eq_none (hv.article_apart name hname article hmem) _
  have eaten : ∀ ws, eatArticle (article :: ws) = (false, ws) := by
    rcases harticle with rfl | rfl <;> intro ws <;> rfl
  rw [readWithin_of_plain vocabulary plain, noName]
  simp only [readPlain, List.head?_cons, Option.filter_some, hv.article_plain article hmem, Option.isSome_none,
    Bool.false_eq_true, if_false, eaten, readNoun_words hv ha hn]
  rfl

/-! ## The whole phrase -/

/-- **Phrases are self-delimiting.** The words of a phrase over a readable vocabulary are read as that phrase, and the
words after it are left. -/
theorem readWithin_words (hv : vocabulary.Readable) {phrase : NounPhrase}
    (h : phrase.Over vocabulary.lexicon vocabulary.cast.names) {depth : Nat} (hd : phrase.words.length ≤ depth)
    (rest : Words) : readWithin vocabulary depth (phrase.words ++ rest) = .ok (phrase, rest) := by
  induction phrase generalizing depth rest with
  | nothing =>
    rw [NounPhrase.words_nothing] at hd ⊢
    obtain ⟨d, rfl⟩ : ∃ d, depth = d + 1 := ⟨depth - 1, by simp at hd; omega⟩
    rfl
  | noun adjectives word =>
    obtain ⟨⟨polarity, hn⟩, ha⟩ := h
    have hwords := NounPhrase.words_noun (hv.single _ hn) fun a hmem => by
      obtain ⟨p, hp⟩ := ha a hmem
      exact hv.single _ hp
    rw [hwords] at hd ⊢
    obtain ⟨d, rfl⟩ : ∃ d, depth = d + 1 := ⟨depth - 1, by simp at hd; omega⟩
    rw [List.cons_append, List.append_assoc, List.singleton_append]
    exact readWithin_noun hv ha hn (articleFor_mem _) d rest
  | pronoun word =>
    obtain ⟨role, hw⟩ := h
    have hwords : (NounPhrase.pronoun word).words = [word] := hv.single _ hw
    rw [hwords] at hd ⊢
    obtain ⟨d, rfl⟩ : ∃ d, depth = d + 1 := ⟨depth - 1, by simp at hd; omega⟩
    exact readWithin_pronoun hv hw d rest
  | name name =>
    have hname : name ∈ vocabulary.cast.names := h
    obtain ⟨hne, hwords⟩ := hv.name_words name hname
    have hd : (Words.ofBody name).length ≤ depth := hd
    have hpos : 0 < (Words.ofBody name).length := by rw [hwords]; exact List.length_pos_iff.2 hne
    obtain ⟨d, rfl⟩ : ∃ d, depth = d + 1 := ⟨depth - 1, by omega⟩
    exact readWithin_name hv hname d rest
  | binary op lhs rhs ihl ihr =>
    obtain ⟨hl, hr⟩ := h
    rw [NounPhrase.words_binary] at hd ⊢
    simp only [List.length_append, List.length_cons] at hd
    obtain ⟨d, rfl⟩ : ∃ d, depth = d + 1 := ⟨depth - 1, by omega⟩
    have hpos : 0 < (Words.ofBody op.opening).length := by cases op <;> decide
    have left : readWithin vocabulary d (lhs.words ++ "and" :: (rhs.words ++ rest)) = .ok (lhs, _) :=
      ihl hl (by omega) _
    have right : readWithin vocabulary d (rhs.words ++ rest) = .ok (rhs, rest) := ihr hr (by omega) rest
    have hand : Words.expect PhraseError.mismatch "and" ("and" :: (rhs.words ++ rest)) = .ok (rhs.words ++ rest) := rfl
    simp only [List.append_assoc, List.cons_append]
    rw [readWithin_binary, left]
    simp only [bind, Except.bind, hand, right]
    rfl
  | unary op operand ih =>
    rw [NounPhrase.words_unary] at hd ⊢
    rw [List.length_append] at hd
    have hpos : 0 < (Words.ofBody op.opening).length := by cases op <;> decide
    obtain ⟨d, rfl⟩ : ∃ d, depth = d + 1 := ⟨depth - 1, by omega⟩
    have inner : readWithin vocabulary d (operand.words ++ rest) = .ok (operand, rest) := ih h (by omega) rest
    rw [List.append_assoc, readWithin_unary, inner]
    rfl
  | twice operand ih =>
    rw [NounPhrase.words_twice] at hd ⊢
    rw [List.length_cons] at hd
    obtain ⟨d, rfl⟩ : ∃ d, depth = d + 1 := ⟨depth - 1, by omega⟩
    have inner : readWithin vocabulary d (operand.words ++ rest) = .ok (operand, rest) := ih h (by omega) rest
    rw [List.cons_append, readWithin_twice, inner]
    rfl

/-- a phrase is read from the front of any sentence that begins with its words -/
theorem read_words (hv : vocabulary.Readable) {phrase : NounPhrase}
    (h : phrase.Over vocabulary.lexicon vocabulary.cast.names) (rest : Words) :
    read vocabulary (phrase.words ++ rest) = .ok (phrase, rest) :=
  readWithin_words hv h (by simp) rest

end Phrase

end Playscript
