/-
Scripts: programs made ready to be performed. Characters are numbered, jumps go to acts and scenes counted from zero,
and the operations of all scenes stand in one row, each scene holding a span of it.
-/
import Playscript.Statement

namespace Playscript

/-- a value with its characters numbered -/
inductive Operand where
  | constant (n : Int64)
  | binary (op : BinaryOp) (lhs rhs : Operand)
  | unary (op : UnaryOp) (operand : Operand)
  | character (i : Nat)
  | role (role : Role)
  deriving DecidableEq, Repr

inductive Action where
  | enter (characters : List Nat)
  | exit (character : Nat)
  /-- an empty list clears the stage -/
  | exeunt (characters : List Nat)
  | assign (value : Operand)
  | compare (relation : Relation) (negated : Bool) (lhs rhs : Operand)
  /-- to an act and a scene, both counted from zero -/
  | jump (act scene : Nat)
  | input (channel : Channel)
  | output (channel : Channel)
  | remember (value : Operand)
  | recall
  deriving DecidableEq, Repr

/-- one statement or stage direction -/
structure Operation where
  /-- nobody speaks a stage direction -/
  speaker : Option Nat
  /-- what the flag must be for the operation to run -/
  guard : Option Bool
  action : Action
  deriving DecidableEq, Repr

/-- the operations of a scene: from `start` up to, not including, `stop` -/
structure Span where
  start : Nat
  stop : Nat
  deriving DecidableEq, Repr

def Span.length (span : Span) : Nat := span.stop - span.start

def Span.isEmpty (span : Span) : Bool := span.start == span.stop

structure Script where
  characters : List Ident
  operations : List Operation
  /-- for every act, the spans of its scenes -/
  acts : List (List Span)
  deriving DecidableEq, Repr

/-- the number of a character -/
def Script.character? (script : Script) (id : Ident) : Option Nat := script.characters.findIdx? (· == id)

end Playscript
