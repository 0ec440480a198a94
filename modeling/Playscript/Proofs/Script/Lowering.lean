/-
What compiling makes of the characters and lines of a program.

- `operationsByScene_eq`: the operations of every scene come from its lines;
- `Operand.within_ofValue`: declared characters have numbers below the number of all;
- `numberOf_map`, `Operand.ofValue_rename`: numbers depend on the order of the characters, not on their identifiers.
-/
import Playscript.Script.Compile
import Playscript.Proofs.Script.Soundness

namespace Playscript

/-- an operand calls characters below `n` only -/
def Operand.Within (n : Nat) : Operand → Prop
  | .constant _ => True
  | .binary _ lhs rhs => lhs.Within n ∧ rhs.Within n
  | .unary _ operand => operand.Within n
  | .character i => i < n
  | .role _ => True

theorem numberOf_lt {characters : List Ident} {id : Ident} (h : id ∈ characters) :
    numberOf characters id < characters.length := List.idxOf_lt_length_of_mem h

theorem Operand.within_ofValue {characters : List Ident} {value : Value} (h : ∀ id ∈ value.mentions, id ∈ characters) :
    (Operand.ofValue characters value).Within characters.length := by
  induction value with
  | constant n => trivial
  | binary op lhs rhs ihl ihr =>
    exact ⟨ihl fun id hid => h id (List.mem_append_left _ hid), ihr fun id hid => h id (List.mem_append_right _ hid)⟩
  | unary op operand ih => exact ih h
  | character id => exact numberOf_lt (h id (List.mem_singleton_self id))
  | role role => trivial

/-- numbers are given in order, whatever the identifiers -/
theorem numberOf_map {f : Ident → Ident} {characters : List Ident} (h : (characters.map f).Nodup) {id : Ident}
    (hid : id ∈ characters) : numberOf (characters.map f) (f id) = numberOf characters id := by
  have hlt := List.idxOf_lt_length_of_mem hid
  have hlt' : characters.idxOf id < (characters.map f).length := by simpa using hlt
  have hget : (characters.map f)[characters.idxOf id] = f id := by simp
  unfold numberOf
  rw [← hget]
  exact List.Nodup.idxOf_getElem h _ hlt'

theorem Operand.ofValue_rename {f : Ident → Ident} {characters : List Ident} (h : (characters.map f).Nodup)
    {value : Value} (hvalue : ∀ id ∈ value.mentions, id ∈ characters) :
    Operand.ofValue (characters.map f) (value.rename f) = Operand.ofValue characters value := by
  induction value with
  | constant n => rfl
  | binary op lhs rhs ihl ihr =>
    rw [Value.rename, ofValue, ofValue, ihl fun id hid => hvalue id (List.mem_append_left _ hid),
      ihr fun id hid => hvalue id (List.mem_append_right _ hid)]
  | unary op operand ih => rw [Value.rename, ofValue, ofValue, ih hvalue]
  | character id => rw [Value.rename, ofValue, ofValue, numberOf_map h (hvalue id (List.mem_singleton_self id))]
  | role role => rfl

/-- the operations of every scene, from its lines -/
theorem operationsByScene_eq (characters : List Ident) (program : Program) :
    operationsByScene characters program.acts =
      (program.linesByScene.zipIdx 1).map fun act =>
        act.1.map fun lines => lines.flatMap (Line.operations characters act.2) := by
  simp only [operationsByScene, Program.linesByScene, List.zipIdx_map, List.map_map]
  refine List.map_congr_left fun act _ => ?_
  simp [Scene.operations, Function.comp_def]

end Playscript
