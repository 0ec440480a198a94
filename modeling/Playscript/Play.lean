/-
Plays: programs in prose form, as acts of scenes of stage directions and speeches, before any sentence is understood.
-/

namespace Playscript

structure Persona where
  name : String
  description : String
  deriving DecidableEq, Repr

inductive PlayLine where
  /-- the text between the brackets of a stage direction -/
  | direction (text : String)
  | speech (speaker : String) (sentences : List String)
  deriving DecidableEq, Repr

structure PlayScene where
  numeral : String
  description : String
  lines : List PlayLine
  deriving DecidableEq, Repr

structure PlayAct where
  numeral : String
  description : String
  scenes : List PlayScene
  deriving DecidableEq, Repr

structure Play where
  title : String
  personae : List Persona
  acts : List PlayAct
  deriving DecidableEq, Repr

end Playscript
