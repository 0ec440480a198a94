/-
Compiling programs into scripts. A program without defects has a script; one with defects has none, and all of them are
listed. `Program.lower` keeps the order of everything: a speech becomes one operation for each of its statements, a
conditional one operation with a guard.
-/
import Playscript.Script
import Playscript.Script.Defects

namespace Playscript

/-! ## Operations -/

section Lowering

variable (characters : List Ident)

/-- the number of a declared character -/
def numberOf (id : Ident) : Nat := characters.idxOf id

def Operand.ofValue : Value → Operand
  | .constant n => .constant n
  | .binary op lhs rhs => .binary op (ofValue lhs) (ofValue rhs)
  | .unary op operand => .unary op (ofValue operand)
  | .character id => .character (numberOf characters id)
  | .role partner => .role partner

def Action.ofDirection : StageDirection → Action
  | .enter ids => .enter (ids.map (numberOf characters))
  | .exit id => .exit (numberOf characters id)
  | .exeunt ids => .exeunt (ids.map (numberOf characters))

/-- the action of a statement in the `act`th act, counted from one; a conditional is no action -/
def Action.ofStatement? (act : Nat) : Statement → Option Action
  | .assign value => some (.assign (Operand.ofValue characters value))
  | .compare c =>
    some (.compare c.relation c.negated (Operand.ofValue characters c.lhs) (Operand.ofValue characters c.rhs))
  | .conditional .. => none
  | .jump target => some (.jump (target.act.getD act - 1) (target.scene - 1))
  | .input channel => some (.input channel)
  | .output channel => some (.output channel)
  | .remember value => some (.remember (Operand.ofValue characters value))
  | .recall => some .recall

def Operation.ofStatement? (act speaker : Nat) : Statement → Option Operation
  | .conditional polarity body =>
    (Action.ofStatement? characters act body).map fun action => ⟨some speaker, some polarity, action⟩
  | simple => (Action.ofStatement? characters act simple).map fun action => ⟨some speaker, none, action⟩

def Line.operations (act : Nat) : Line → List Operation
  | .direction d => [⟨none, none, Action.ofDirection characters d⟩]
  | .speech speaker statements =>
    statements.filterMap (Operation.ofStatement? characters act (numberOf characters speaker))

def Scene.operations (act : Nat) (scene : Scene) : List Operation :=
  scene.lines.flatMap (Line.operations characters act)

/-- for every act, the operations of each of its scenes -/
def operationsByScene (acts : List Act) : List (List (List Operation)) :=
  (acts.zipIdx 1).map fun (act, n) => act.scenes.map (Scene.operations characters n)

end Lowering

/-! ## Spans -/

/-- spans of the given lengths, one after the other -/
def spansFrom (start : Nat) : List Nat → List Span
  | [] => []
  | length :: rest => ⟨start, start + length⟩ :: spansFrom (start + length) rest

/-- spans for rows of lengths, one row after the other -/
def spanRowsFrom (start : Nat) : List (List Nat) → List (List Span)
  | [] => []
  | row :: rest => spansFrom start row :: spanRowsFrom (start + row.sum) rest

namespace Program

/-- the script of a program without defects -/
def lower (program : Program) : Script :=
  let scenes := operationsByScene program.declared program.acts
  ⟨program.declared, scenes.flatten.flatten, spanRowsFrom 0 (scenes.map fun row => row.map List.length)⟩

/-- the script of a program, or everything that is wrong with it -/
def compile (program : Program) : Except (List Defect) Script :=
  match program.defects with
  | [] => .ok program.lower
  | defects => .error defects

theorem compile_eq_ok_iff {program : Program} {script : Script} :
    program.compile = .ok script ↔ program.defects = [] ∧ script = program.lower := by
  unfold compile
  split
  · next h => simp [h, eq_comm]
  · next h => simpa using fun hnil => absurd hnil h

end Program

end Playscript
