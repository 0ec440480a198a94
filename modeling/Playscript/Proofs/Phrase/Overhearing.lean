/-
Whoever knows fewer characters understands less, but nothing differently.

- `Cast.Within`: one cast knows every name that another knows, for the same character, and its further names cannot be
  taken for anything that the other reads;
- `readValue_refines`: a value that is read with the smaller cast is read with the larger, and mentions characters of
  the smaller only.
-/
import Playscript.Phrase.Reading
import Playscript.Proofs.Outcome
import Playscript.Proofs.Renaming
import Playscript.Proofs.Text.Eating

namespace Playscript

/-- all of these characters belong to the cast -/
def Cast.HasAll (cast : Cast) (ids : List Ident) : Prop := ∀ id ∈ ids, id ∈ cast.members.map (·.1)

theorem Cast.mem_of_identOf {cast : Cast} {name : String} {id : Ident} (h : cast.identOf name = some id) :
    id ∈ cast.members.map (·.1) := by
  obtain ⟨member, hfind, hid⟩ := Option.map_eq_some_iff.1 h
  exact List.mem_map.2 ⟨member, List.mem_of_find?_eq_some hfind, hid⟩

/-- the larger cast reads names as the smaller does, and finds none where the smaller reads a pronoun or a noun -/
structure Cast.Within (lexicon : Lexicon) (small large : Cast) : Prop where
  ident : ∀ name id, small.identOf name = some id → large.identOf name = some id
  named : ∀ ws found, Words.eatLongest small.names ws = some found → Words.eatLongest large.names ws = some found
  plain : ∀ ws answer, Phrase.readPlain lexicon ws = .ok answer → Words.eatLongest small.names ws = none →
    Words.eatLongest large.names ws = none

theorem Cast.Within.refl (lexicon : Lexicon) (cast : Cast) : cast.Within lexicon cast :=
  ⟨fun _ _ h => h, fun _ _ h => h, fun _ _ _ h => h⟩

namespace Phrase

/-- what begins with a word that is neither in the lexicon nor an article is no pronoun and no noun -/
theorem readPlain_ne_ok {lexicon : Lexicon} {word : String} (hword : lexicon.classify word = none)
    (harticle : ∀ article ∈ articles, Text.same word article = false) (ws : Words) (answer : NounPhrase × Words) :
    readPlain lexicon (word :: ws) ≠ .ok answer := by
  have noPerson : lexicon.personOf word = none := by simp [Lexicon.personOf, hword]
  have noArticle : eatArticle (word :: ws) = (false, word :: ws) := by
    have hfind : articles.find? (fun article => (Words.eat article (word :: ws)).isSome) = none := by
      rw [List.find?_eq_none]
      intro article hmem
      simp [Words.eat_eq_none (harticle article hmem)]
    rw [eatArticle, hfind]
  unfold readPlain
  rw [noArticle, List.head?_cons, Option.filter_some, noPerson]
  simp [readNoun, hword, bind, Except.bind]

variable {lexicon : Lexicon} {small large : Cast} (h : small.Within lexicon large)
include h

theorem readWithin_refines (depth : Nat) (ws : Words) :
    Refines (Agree fun _ => True) (readWithin (Vocabulary.of lexicon small) depth ws)
      (readWithin (Vocabulary.of lexicon large) depth ws) := by
  induction depth generalizing ws with
  | zero => exact refines_error _ _
  | succ depth ih =>
    unfold readWithin
    cases Words.eat "nothing" ws <|> Words.eat "zero" ws with
    | some rest => exact refines_ok ⟨rfl, trivial⟩
    | none =>
    cases Words.eat "twice" ws with
    | some rest => exact (ih rest).step fun _ _ => refines_ok ⟨rfl, trivial⟩
    | none =>
    cases eatOpening BinaryOp.opening binaryOps ws with
    | some found =>
      obtain ⟨op, rest⟩ := found
      refine (ih rest).step fun lhs _ => refines_same _ fun rest => ?_
      exact (ih rest).step fun rhs _ => refines_ok ⟨rfl, trivial⟩
    | none =>
    cases eatOpening UnaryOp.opening unaryOps ws with
    | some found =>
      obtain ⟨op, rest⟩ := found
      exact (ih rest).step fun _ _ => refines_ok ⟨rfl, trivial⟩
    | none =>
    cases hsmall : Words.eatLongest (Vocabulary.of lexicon small).cast.names ws with
    | some found =>
      have hlarge : Words.eatLongest (Vocabulary.of lexicon large).cast.names ws = some found := h.named ws found hsmall
      rw [hlarge]
      exact refines_ok ⟨rfl, trivial⟩
    | none =>
      intro answer hanswer
      have hlarge : Words.eatLongest (Vocabulary.of lexicon large).cast.names ws = none := h.plain ws answer hanswer hsmall
      rw [hlarge]
      exact ⟨answer, hanswer, rfl, trivial⟩

theorem meaning_refines (phrase : NounPhrase) :
    Refines (Agree fun value => small.HasAll value.mentions) (meaning (Vocabulary.of lexicon small) phrase)
      (meaning (Vocabulary.of lexicon large) phrase) := by
  induction phrase with
  | nothing => exact refines_ok ⟨rfl, nofun⟩
  | noun adjectives noun => exact refines_same _ fun worth => refines_ok ⟨rfl, nofun⟩
  | pronoun word =>
    intro value hvalue
    refine ⟨value, hvalue, rfl, ?_⟩
    unfold meaning at hvalue
    split at hvalue
    · cases hvalue
      exact nofun
    · cases hvalue
  | name name =>
    unfold meaning
    cases hsmall : (Vocabulary.of lexicon small).cast.identOf name with
    | none => exact refines_error _ _
    | some id =>
      have hlarge : (Vocabulary.of lexicon large).cast.identOf name = some id := h.ident name id hsmall
      rw [hlarge]
      refine refines_ok ⟨rfl, fun other hother => ?_⟩
      rw [List.mem_singleton.1 hother]
      exact Cast.mem_of_identOf hsmall
  | binary op lhs rhs ihl ihr =>
    refine ihl.step fun left hleft => ihr.step fun right hright => refines_ok ⟨rfl, fun id hid => ?_⟩
    rw [Value.mentions_combine] at hid
    exact (List.mem_append.1 hid).elim (hleft id) (hright id)
  | unary op operand ih => exact ih.step fun inner hinner => refines_ok ⟨rfl, hinner⟩
  | twice operand ih =>
    exact ih.step fun inner hinner => refines_ok ⟨rfl, hinner⟩

/-- **A value overheard is the value meant.** -/
theorem readValue_refines (ws : Words) :
    Refines (Agree fun answer => small.HasAll answer.1.mentions)
      (readValue (Vocabulary.of lexicon small) ws) (readValue (Vocabulary.of lexicon large) ws) := by
  refine (readWithin_refines h ws.length ws).step fun ⟨phrase, rest⟩ _ => ?_
  dsimp only
  cases hsmall : meaning (Vocabulary.of lexicon small) phrase with
  | error cause => exact refines_error _ _
  | ok value =>
    obtain ⟨_, hlarge, rfl, hvalue⟩ := meaning_refines h phrase value hsmall
    rw [hlarge]
    exact refines_ok ⟨rfl, hvalue⟩

end Phrase

end Playscript
