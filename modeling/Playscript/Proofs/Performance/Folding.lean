/-
A value and the form in which it comes back have the same worth.

Folding a sum does what the sum would have done, and the speaker called by role is the speaker called by identifier. Both
hold error for error, so a performance cannot tell the two apart (`evaluate_spokenBy`).
-/
import Playscript.Performance.Execute
import Playscript.Script.Compile
import Playscript.Sentence

namespace Playscript.Performance

variable {σ : Type} (p : Performance σ) (script : Script) (characters : List Ident)

theorem evaluate_combine (speaker : Nat) (op : BinaryOp) (lhs rhs : Value) :
    p.evaluate script speaker (Operand.ofValue characters (Value.combine op lhs rhs)) =
      p.evaluate script speaker (Operand.ofValue characters (.binary op lhs rhs)) := by
  unfold Value.combine
  split
  · rename_i a b
    split
    · rename_i sum hsum
      have exact : narrow (a.toInt + b.toInt) = some sum := by
        unfold expansionSum at hsum
        split at hsum
        · exact hsum
        · cases hsum
      simp only [Operand.ofValue, evaluate, bind, Except.bind, BinaryOp.apply, narrowed, exact, computed]
    · rfl
  · rfl

/-- folding keeps the worth of a value -/
theorem evaluate_canonical (speaker : Nat) (value : Value) :
    p.evaluate script speaker (Operand.ofValue characters value.canonical) =
      p.evaluate script speaker (Operand.ofValue characters value) := by
  induction value with
  | binary op lhs rhs ihl ihr =>
    rw [Value.canonical, evaluate_combine]
    simp only [Operand.ofValue, evaluate, ihl, ihr]
  | unary op operand ih => simp only [Value.canonical, Operand.ofValue, evaluate, ih]
  | _ => rfl

/-- whoever speaks is worth the same by role -/
theorem evaluate_withSpeakerAsRole (speaker : Ident) (value : Value) :
    p.evaluate script (numberOf characters speaker)
        (Operand.ofValue characters (value.withSpeakerAsRole speaker)) =
      p.evaluate script (numberOf characters speaker) (Operand.ofValue characters value) := by
  induction value with
  | binary op lhs rhs ihl ihr => simp only [Value.withSpeakerAsRole, Operand.ofValue, evaluate, ihl, ihr]
  | unary op operand ih => simp only [Value.withSpeakerAsRole, Operand.ofValue, evaluate, ih]
  | character id =>
    unfold Value.withSpeakerAsRole
    split
    · rename_i h
      rw [h]
      rfl
    · rfl
  | _ => rfl

/-- **A value that comes back is worth what it was worth**, or fails as it failed. -/
theorem evaluate_spokenBy (speaker : Ident) (value : Value) :
    p.evaluate script (numberOf characters speaker) (Operand.ofValue characters (value.spokenBy speaker)) =
      p.evaluate script (numberOf characters speaker) (Operand.ofValue characters value) := by
  rw [Value.spokenBy, evaluate_canonical, evaluate_withSpeakerAsRole]

end Playscript.Performance
