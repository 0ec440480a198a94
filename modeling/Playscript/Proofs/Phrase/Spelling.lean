/-
Values are understood as they were meant.

- `Cast.Follows`: one cast knows the characters of another by the names that the other gives them;
- `spell_yields`: whatever words are chosen, the phrase of a value is made of the lexicon's words and of names that the
  hearer knows, and means the folded value under the hearer's identifiers;
- `spell_succeeds`: with words enough, a value has a phrase exactly when every character in it has a name.
-/
import Playscript.Proofs.Phrase.Integers
import Playscript.Proofs.Renaming

namespace Playscript

/-- every known character's name, as `teller` gives it, is for `hearer` the name of the renamed character -/
def Cast.Follows (hearer teller : Cast) (rename : Ident → Ident) (known : Ident → Prop) : Prop :=
  ∀ id name, known id → teller.nameOf id = some name → name ∈ hearer.names ∧ hearer.identOf name = some (rename id)

/-- a vocabulary that never lacks a word -/
structure Vocabulary.Ample (vocabulary : Vocabulary) : Prop where
  nouns : ∀ negative, vocabulary.stock.nounsFor negative ≠ []
  adjectives : ∀ polarity, vocabulary.stock.adjectivesFor polarity ≠ []
  comparatives : ∀ polarity, vocabulary.stock.comparativesFor polarity ≠ []
  pronouns : ∀ role, ∃ forms, vocabulary.lexicon.pronoun role = some forms

namespace Phrase

open Choosing

theorem pronounFor_cases {lexicon : Lexicon} {subject : Option Role} {role : Role} {word : String}
    (h : pronounFor lexicon subject role = .ok word) : (word, .pronoun role) ∈ lexicon.entries := by
  unfold pronounFor at h
  split at h
  · cases h
  · rename_i forms hforms
    cases h
    refine Lexicon.mem_entries_pronoun.2 ⟨forms, Lexicon.mem_pronouns_of_pronoun hforms, ?_⟩
    split <;> simp [PronounForms.cases]

theorem yields_liftExcept {α : Type} {x : Except PhraseError α} {P : α → Prop} (h : ∀ a, x = .ok a → P a) :
    Yields (spell.liftExcept x) P := fun _ a ha => h a ha

/-- the phrase of a value, as `hearer` takes it -/
structure Understood (lexicon : Lexicon) (hearer : Vocabulary) (value : Value) (phrase : NounPhrase) : Prop where
  within : phrase.Over lexicon hearer.cast.names
  means : meaning hearer phrase = .ok value

/-- **Values are understood as they were meant**, up to folding and the hearer's identifiers. -/
theorem spell_yields {lexicon : Lexicon} (hvalid : lexicon.validate = .ok ()) {teller : Cast} {hearer : Vocabulary}
    (hl : hearer.lexicon = lexicon) {f : Ident → Ident} {known : Ident → Prop}
    (hfollow : hearer.cast.Follows teller f known) (subject : Option Role) {value : Value}
    (hknown : ∀ id ∈ value.mentions, known id) :
    Yields (spell (Vocabulary.of lexicon teller) subject value)
      (Understood lexicon hearer (value.canonical.rename f)) := by
  induction value with
  | constant n =>
    exact (spellInteger_yields hvalid n).mono fun phrase h => ⟨h.1 _, h.2 hearer hl⟩
  | binary op lhs rhs ihl ihr =>
    have hlhs := ihl fun id h => hknown id (List.mem_append_left _ h)
    have hrhs := ihr fun id h => hknown id (List.mem_append_right _ h)
    rw [Value.canonical, Value.combine_rename]
    unfold spell
    split
    · rename_i h
      obtain ⟨rfl, rfl⟩ := h
      refine hrhs.bind fun operand ho => yields_pure ⟨ho.within, ?_⟩
      rw [meaning, ho.means]
      rfl
    · refine hlhs.bind fun left hleft => hrhs.bind fun right hright => ?_
      refine yields_pure ⟨⟨hleft.within, hright.within⟩, ?_⟩
      rw [meaning, hleft.means, hright.means]
      rfl
  | unary op operand ih =>
    refine (ih hknown).bind fun phrase h => yields_pure ⟨h.within, ?_⟩
    rw [meaning, h.means]
    rfl
  | character id =>
    unfold spell
    split
    · rename_i name hname
      obtain ⟨hmem, hident⟩ := hfollow id name (hknown id (List.mem_singleton_self id)) hname
      refine yields_pure ⟨hmem, ?_⟩
      rw [meaning, hident]
      rfl
    · exact yields_throw _ _
  | role role =>
    refine (yields_liftExcept fun word hw => pronounFor_cases hw).bind fun word hword => ?_
    refine yields_pure ⟨⟨role, hword⟩, ?_⟩
    rw [meaning, hl, Lexicon.personOf_of_mem hvalid hword]
    rfl

/-! ## Whether a value has a phrase -/

section Stock

variable (stock : Stock) (n : Int64)

theorem spellAdjectives_stocked (count : Nat) :
    Succeeds (spellAdjectives stock n count)
      (0 < count → stock.adjectivesFor (if n < 0 then .negative else .positive) ≠ []) := by
  induction count with
  | zero => exact (succeeds_pure _).congr (by simp)
  | succ count ih =>
    refine ((succeeds_chooseOr _ _).bind fun adjective => ih.bind fun rest => succeeds_pure _).congr ?_
    simp only [and_true, Nat.zero_lt_succ, true_imp_iff]
    exact and_iff_left_of_imp fun hne _ => hne

theorem spellPower_stocked (exponent : Nat) :
    Succeeds (spellPower stock n exponent) (stock.nounsFor (n < 0) ≠ [] ∧
      (0 < exponent → stock.adjectivesFor (if n < 0 then .negative else .positive) ≠ [])) := by
  refine ((succeeds_chooseOr _ _).bind fun noun => (spellAdjectives_stocked stock n exponent).bind fun adjectives =>
    succeeds_pure _).congr ?_
  rw [and_true]

/-- **A sum of powers of two has a phrase** exactly when there are nouns for them, and adjectives for those above one. -/
theorem spellBits_stocked (bits : List Nat) :
    Succeeds (spellBits stock n bits) (∀ bit ∈ bits, stock.nounsFor (n < 0) ≠ [] ∧
      (0 < bit → stock.adjectivesFor (if n < 0 then .negative else .positive) ≠ [])) := by
  induction bits with
  | nil => exact (succeeds_pure _).congr (by simp)
  | cons bit bits ih =>
    cases bits with
    | nil => exact (spellPower_stocked stock n bit).congr (by simp)
    | cons next bits =>
      refine ((spellPower_stocked stock n bit).bind fun lhs => ih.bind fun rhs => succeeds_pure _).congr ?_
      rw [and_true, List.forall_mem_cons (a := bit)]

end Stock

section Ample

variable {vocabulary : Vocabulary} (h : vocabulary.Ample)
include h

theorem spellBits_succeeds (n : Int64) (bits : List Nat) : Succeeds (spellBits vocabulary.stock n bits) True :=
  (spellBits_stocked vocabulary.stock n bits).congr (by simp [h.nouns, h.adjectives])

/-- **A value has a phrase exactly when every character in it has a name.** -/
theorem spell_succeeds (subject : Option Role) (value : Value) :
    Succeeds (spell vocabulary subject value) (∀ id ∈ value.mentions, ∃ name, vocabulary.cast.nameOf id = some name) := by
  induction value with
  | constant n => exact (spellBits_succeeds h n _).congr (by simp [Value.mentions])
  | binary op lhs rhs ihl ihr =>
    have both : (∀ id ∈ (Value.binary op lhs rhs).mentions, ∃ name, vocabulary.cast.nameOf id = some name) ↔
        (∀ id ∈ lhs.mentions, ∃ name, vocabulary.cast.nameOf id = some name) ∧
          ∀ id ∈ rhs.mentions, ∃ name, vocabulary.cast.nameOf id = some name := by
      simp only [Value.mentions, List.mem_append, or_imp, forall_and]
    unfold spell
    split
    · rename_i hop
      obtain ⟨rfl, rfl⟩ := hop
      refine (ihr.bind fun operand => succeeds_pure _).congr ?_
      rw [both]
      simp [Value.mentions]
    · refine (ihl.bind fun left => ihr.bind fun right => succeeds_pure _).congr ?_
      rw [both]
      simp
  | unary op operand ih => exact (ih.bind fun phrase => succeeds_pure _).congr (by simp [Value.mentions])
  | character id =>
    unfold spell
    split
    · rename_i name hname
      exact (succeeds_pure _).congr (by simp [Value.mentions, hname])
    · rename_i hname
      exact (succeeds_throw _).congr (by simp [Value.mentions, hname])
  | role role =>
    obtain ⟨forms, hforms⟩ := h.pronouns role
    have lifted : Succeeds (spell.liftExcept (pronounFor vocabulary.lexicon subject role)) True := by
      intro g
      simp [spell.liftExcept, pronounFor, hforms]
    exact (lifted.bind fun word => succeeds_pure _).congr (by simp [Value.mentions])

end Ample

end Phrase

end Playscript
