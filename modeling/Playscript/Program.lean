/-
Programs in structured form: declared characters, then acts of scenes of lines. Free text may name characters by
placeholders (`Playscript.Cast.Template`).

`Scene.guards` pairs every conditional of a scene with the nearest comparison before it in that scene. Comparisons that
are the body of a conditional are not looked at.
-/
import Playscript.Statement

namespace Playscript

structure Declaration where
  id : Ident
  description : String
  deriving DecidableEq, Repr

inductive Line where
  | direction (direction : StageDirection)
  | speech (speaker : Ident) (statements : List Statement)
  deriving DecidableEq, Repr

def Line.statements : Line → List Statement
  | .direction _ => []
  | .speech _ statements => statements

structure Scene where
  description : String
  lines : List Line
  deriving DecidableEq, Repr

structure Act where
  description : String
  scenes : List Scene
  deriving DecidableEq, Repr

structure Program where
  title : String
  characters : List Declaration
  acts : List Act
  deriving DecidableEq, Repr

/-- a statement's place in its scene: its line, and its place in that line's speech, both from zero -/
structure StatementRef where
  line : Nat
  statement : Nat
  deriving DecidableEq, Repr

/-- a conditional and the nearest comparison before it in the scene, if there is one -/
structure Guard where
  conditional : StatementRef
  comparison : Option StatementRef
  deriving DecidableEq, Repr

namespace Scene

/-- every statement of the scene with its place, in order -/
def statements (scene : Scene) : List (StatementRef × Statement) :=
  scene.lines.zipIdx.flatMap fun (line, i) =>
    line.statements.zipIdx.map fun (statement, j) => (⟨i, j⟩, statement)

/-- the guards among placed statements, given the last comparison before them -/
def guardsAfter (last : Option StatementRef) : List (StatementRef × Statement) → List Guard
  | [] => []
  | (place, .compare _) :: rest => guardsAfter (some place) rest
  | (place, .conditional ..) :: rest => ⟨place, last⟩ :: guardsAfter last rest
  | _ :: rest => guardsAfter last rest

def guards (scene : Scene) : List Guard := guardsAfter none scene.statements

end Scene

/-- an act and a scene counted from one, as reports name them -/
structure Location where
  act : Nat
  scene : Nat
  deriving DecidableEq, Repr

def Location.text (place : Location) : String := s!"act {place.act}, scene {place.scene}"

end Playscript
