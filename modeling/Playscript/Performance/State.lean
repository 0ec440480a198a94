/-
The state of a performance: a value and a stack for every character, the stage, the flag that the last comparison left,
the place of the next operation, and the state of the console.

`Script.settle` finds the next operation: scenes and acts that have none left are passed over.
-/
import Playscript.Performance.Fault
import Playscript.Script

namespace Playscript

/-- what a character holds: a value, and a stack with its top first -/
structure Memory where
  value : Option Int64
  stack : List Int64
  deriving DecidableEq, Repr

def Memory.blank : Memory := ⟨none, []⟩

inductive Status where
  | ready
  | running
  | finished
  | failed
  deriving DecidableEq, Repr

structure Performance (σ : Type) where
  memory : List Memory
  /-- characters on stage in order of entrance -/
  stage : List Nat
  flag : Option Bool
  position : Position
  status : Status
  console : σ
  deriving DecidableEq, Repr

namespace Performance

/-- the performance before its first step -/
def start {σ : Type} (script : Script) (state : σ) : Performance σ where
  memory := script.characters.map fun _ => Memory.blank
  stage := []
  flag := none
  position := ⟨0, 0, 0⟩
  status := .ready
  console := state

end Performance

/-! ## The next operation -/

/-- the first of the scenes with an operation left, and the place of that operation in the row -/
def seekScene (scene line : Nat) : List Span → Option ((Nat × Nat) × Nat)
  | [] => none
  | span :: rest =>
    if line < span.length then some ((scene, line), span.start + line) else seekScene (scene + 1) 0 rest

/-- the first of the acts with an operation left; only the first of them is entered in the middle -/
def seekAct (act scene line : Nat) : List (List Span) → Option (Position × Nat)
  | [] => none
  | spans :: rest =>
    match seekScene scene line (spans.drop scene) with
    | some ((scene, line), index) => some (⟨act, scene, line⟩, index)
    | none => seekAct (act + 1) 0 0 rest

namespace Script

/-- moves past exhausted scenes and acts: the place of the next operation in the row, unless the script has ended -/
def settle (script : Script) (position : Position) : Position × Option Nat :=
  match seekAct position.act position.scene position.line (script.acts.drop position.act) with
  | some (settled, index) => (settled, some index)
  | none => (⟨script.acts.length, 0, 0⟩, none)

end Script

end Playscript
