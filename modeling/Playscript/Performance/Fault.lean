/-
What can stop a performance, and where.
-/
import Playscript.Arithmetic
import Playscript.Console
import Playscript.Text.Quoted

namespace Playscript

/-- why an operation cannot be run -/
inductive RuntimeError where
  | alreadyOnStage (id : Ident)
  | notOnStage (id : Ident)
  | noAddressee (id : Ident)
  | ambiguousAddressee (speaker : Ident) (others : Nat)
  | flagUnset
  | arithmetic (cause : ArithmeticError)
  | emptyStack (id : Ident)
  | unsetValue (id : Ident)
  | invalidCharacterOutput (n : Int64)
  | invalidCharacterInput (input : String)
  | invalidIntegerInput (input : String)
  | console (cause : ConsoleError)
  | halted
  deriving DecidableEq, Repr

def RuntimeError.message : RuntimeError → String
  | .alreadyOnStage id => s!"{id.text} is already on stage"
  | .notOnStage id => s!"{id.text} is not on stage"
  | .noAddressee id => s!"{id.text} has nobody to talk to"
  | .ambiguousAddressee speaker others =>
    s!"{speaker.text} is on stage with {others} others; the addressee is ambiguous"
  | .flagUnset => "a conditional ran before any comparison"
  | .arithmetic cause => cause.message
  | .emptyStack id => s!"{id.text} has an empty stack"
  | .unsetValue id => s!"{id.text} has no value yet"
  | .invalidCharacterOutput n => s!"{n.toInt} is not a character code"
  | .invalidCharacterInput input =>
    s!"character input must be exactly one character, got {Text.quoted input}"
  | .invalidIntegerInput input => s!"integer input {Text.quoted input} is not a number"
  | .console cause => s!"console error: {cause.message}"
  | .halted => "the performance is already over"

/-- an act, a scene and an operation of it, all counted from zero -/
structure Position where
  act : Nat
  scene : Nat
  line : Nat
  deriving DecidableEq, Repr

def Position.text (position : Position) : String :=
  s!"act {position.act + 1}, scene {position.scene + 1}, line {position.line + 1}"

/-- a runtime error and where it stopped the performance -/
structure Fault where
  position : Position
  error : RuntimeError
  deriving DecidableEq, Repr

def Fault.message (fault : Fault) : String := s!"{fault.position.text}: {fault.error.message}"

end Playscript
