/-
Statements that characters speak, and directions that change who is on stage. A statement acts on the addressee, the
one other character on stage, unless it says otherwise.
-/
import Playscript.Arithmetic

namespace Playscript

/-- compares two values; `negated` turns the outcome round -/
structure Comparison where
  relation : Relation
  negated : Bool
  lhs : Value
  rhs : Value
  deriving DecidableEq, Repr

/-- where a jump goes, both numbers counted from one; without an act, to a scene of the act it stands in -/
structure JumpTarget where
  act : Option Nat
  scene : Nat
  deriving DecidableEq, Repr

/-- what input and output transfer: one character, or a decimal integer -/
inductive Channel where
  | character
  | integer
  deriving DecidableEq, Repr

inductive Statement where
  /-- set the addressee's value -/
  | assign (value : Value)
  /-- evaluate a comparison into the flag -/
  | compare (comparison : Comparison)
  /-- run the body if the flag equals the polarity -/
  | conditional (polarity : Bool) (body : Statement)
  | jump (target : JumpTarget)
  /-- read into the addressee's value -/
  | input (channel : Channel)
  /-- write the addressee's value -/
  | output (channel : Channel)
  /-- push a value onto the addressee's stack -/
  | remember (value : Value)
  /-- pop the addressee's stack into its value -/
  | recall
  deriving DecidableEq, Repr

def Statement.isConditional : Statement → Bool
  | .conditional .. => true
  | _ => false

inductive StageDirection where
  | enter (characters : List Ident)
  | exit (character : Ident)
  /-- several characters leave; an empty list clears the stage -/
  | exeunt (characters : List Ident)
  deriving DecidableEq, Repr

def StageDirection.mentions : StageDirection → List Ident
  | .enter characters => characters
  | .exit character => [character]
  | .exeunt characters => characters

end Playscript
