/-
What a phrase is worth in the middle of a performance.

- `Performance.worth`: the worth of a phrase read as it stands, word by word, with no value in between;
- `worth_of_meaning`: it is the worth of the value that the phrase stands for, error for error;
- `evaluate_folded`: so neither folding sums, nor calling the speaker by role, nor going through a phrase changes what a
  performance computes.
-/
import Playscript.Lexicon.Standard
import Playscript.Phrase.Meaning
import Playscript.Proofs.Outcome
import Playscript.Proofs.Performance.Folding
import Mathlib.Algebra.Group.Int.Defs

namespace Playscript.Performance

variable {σ : Type} (p : Performance σ) (script : Script) (vocabulary : Vocabulary)

/-- the value of a partner of the conversation -/
def partnerValue (speaker : Nat) : Role → Except RuntimeError Int64
  | .speaker => p.valueAt script speaker
  | .addressee => do
    let other ← p.addressee script speaker
    p.valueAt script other

/-- the worth of a phrase to `speaker`, if its nouns, pronouns and names are known: a noun is worth plus or minus one
and each adjective doubles it, and operators take their operands from left to right -/
def worth (speaker : Nat) : NounPhrase → Option (Except RuntimeError Int64)
  | .nothing => some (.ok 0)
  | .noun adjectives noun => do
    let polarity ← vocabulary.lexicon.nounPolarity noun
    return computed (narrowed (polarity.sign.toInt * 2 ^ adjectives.length))
  | .pronoun word => do
    let role ← vocabulary.lexicon.personOf word
    return p.partnerValue script speaker role
  | .name name => do
    let id ← vocabulary.cast.identOf name
    return p.valueAt script (numberOf script.characters id)
  | .binary op lhs rhs => do
    let left ← worth speaker lhs
    let right ← worth speaker rhs
    return do
      let a ← left
      let b ← right
      computed (op.apply a b)
  | .unary op operand => do
    let inner ← worth speaker operand
    return do
      let n ← inner
      computed (op.apply n)
  | .twice operand => do
    let inner ← worth speaker operand
    return do
      let n ← inner
      computed (BinaryOp.mul.apply 2 n)

theorem worth_noun {adjectives : List String} {noun : String} {n : Int64}
    (h : Phrase.nounWorth vocabulary.lexicon adjectives noun = .ok n) (speaker : Nat) :
    p.worth script vocabulary speaker (.noun adjectives noun) = some (.ok n) := by
  unfold Phrase.nounWorth at h
  split at h
  · cases h
  · rename_i polarity hpolarity
    obtain ⟨-, -, h⟩ := bind_eq_ok.1 h
    split at h
    · rename_i exact hexact
      cases h
      have power : ((1 <<< adjectives.length : Nat) : Int) = 2 ^ adjectives.length := by simp [Nat.one_shiftLeft]
      rw [power] at hexact
      simp only [worth, hpolarity, Option.bind_eq_bind, Option.bind_some, narrowed, hexact, computed, pure]
    · cases h

/-- **A phrase is worth what its value is worth**, or fails as its value fails. -/
theorem worth_of_meaning {phrase : NounPhrase} {value : Value} (h : Phrase.meaning vocabulary phrase = .ok value)
    (speaker : Nat) :
    p.worth script vocabulary speaker phrase =
      some (p.evaluate script speaker (Operand.ofValue script.characters value)) := by
  induction phrase generalizing value with
  | nothing =>
    cases h
    rfl
  | noun adjectives noun =>
    obtain ⟨n, hn, hvalue⟩ := bind_eq_ok.1 h
    cases hvalue
    exact p.worth_noun script vocabulary hn speaker
  | pronoun word =>
    rw [Phrase.meaning] at h
    split at h
    · rename_i role hrole
      cases h
      simp only [worth, hrole]
      cases role <;> rfl
    · cases h
  | name name =>
    rw [Phrase.meaning] at h
    split at h
    · rename_i id hid
      cases h
      simp only [worth, hid]
      rfl
    · cases h
  | binary op lhs rhs ihl ihr =>
    obtain ⟨left, hleft, h⟩ := bind_eq_ok.1 h
    obtain ⟨right, hright, hvalue⟩ := bind_eq_ok.1 h
    cases hvalue
    rw [worth, ihl hleft, ihr hright, evaluate_combine]
    rfl
  | unary op operand ih =>
    obtain ⟨inner, hinner, hvalue⟩ := bind_eq_ok.1 h
    cases hvalue
    rw [worth, ih hinner]
    rfl
  | twice operand ih =>
    obtain ⟨inner, hinner, hvalue⟩ := bind_eq_ok.1 h
    cases hvalue
    rw [worth, ih hinner]
    rfl

/-- **Folding never changes what is computed.** At any point of a performance the value that a statement comes back with
gives the number that the value gave, or the same error; and the value of a phrase gives what the phrase gives when it
is read as it stands. -/
theorem evaluate_folded :
    (∀ speaker value,
        p.evaluate script (numberOf script.characters speaker)
            (Operand.ofValue script.characters (value.withSpeakerAsRole speaker).canonical) =
          p.evaluate script (numberOf script.characters speaker) (Operand.ofValue script.characters value)) ∧
      ∀ vocabulary speaker phrase value, Phrase.meaning vocabulary phrase = .ok value →
        p.worth script vocabulary speaker phrase =
          some (p.evaluate script speaker (Operand.ofValue script.characters value)) :=
  ⟨fun speaker value => p.evaluate_spokenBy script script.characters speaker value,
    fun vocabulary speaker _ _ h => p.worth_of_meaning script vocabulary h speaker⟩

/-- Romeo divides minus five by Juliet, who is worth zero -/
theorem evaluate_folded_division :
    let romeo : Ident := ⟨"romeo"⟩
    let juliet : Ident := ⟨"juliet"⟩
    let script : Script := ⟨[romeo, juliet], [], []⟩
    let p : Performance Unit := ⟨[⟨some 8, []⟩, ⟨some 0, []⟩], [0, 1], none, ⟨0, 0, 0⟩, .running, ()⟩
    let vocabulary := Vocabulary.of Lexicon.standard ⟨[], [(romeo, "Romeo"), (juliet, "Juliet")]⟩
    let lhs : NounPhrase := .binary .add (.noun ["big", "fat"] "pig") (.noun [] "pig")
    let phrase : NounPhrase := .binary .div lhs (.name "Juliet")
    let value : Value := .binary .div (.constant (-5)) (.character juliet)
    Phrase.meaning vocabulary phrase = .ok value ∧
      p.worth script vocabulary 0 phrase = some (.error (.arithmetic .divisionByZero)) ∧
      p.evaluate script 0 (Operand.ofValue script.characters value) = .error (.arithmetic .divisionByZero) := by
  have divisor : Phrase.meaning (Vocabulary.of Lexicon.standard ⟨[], [(⟨"romeo"⟩, "Romeo"), (⟨"juliet"⟩, "Juliet")]⟩)
      (.name "Juliet") = .ok (.character ⟨"juliet"⟩) := by rfl
  intro romeo juliet script p vocabulary lhs phrase value
  have sum : Value.combine .add (.constant (-4)) (.constant (-1)) = .constant (-5) := by decide
  have four : Phrase.meaning vocabulary (.noun ["big", "fat"] "pig") = .ok (.constant (-4)) := by rfl
  have one : Phrase.meaning vocabulary (.noun [] "pig") = .ok (.constant (-1)) := by rfl
  have five : Phrase.meaning vocabulary lhs = .ok (.constant (-5)) :=
    bind_eq_ok.2 ⟨_, four, bind_eq_ok.2 ⟨_, one, congrArg Except.ok sum⟩⟩
  have means : Phrase.meaning vocabulary phrase = .ok value :=
    bind_eq_ok.2 ⟨_, five, bind_eq_ok.2 ⟨_, divisor, rfl⟩⟩
  have fails : p.evaluate script 0 (Operand.ofValue script.characters value) =
      .error (.arithmetic .divisionByZero) := by rfl
  have reads := (p.evaluate_folded script).2 vocabulary 0 phrase value means
  rw [fails] at reads
  exact ⟨means, reads, fails⟩

end Playscript.Performance
