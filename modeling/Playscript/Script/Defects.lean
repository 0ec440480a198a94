/-
What keeps a program from being performed. `Program.references` lists, in play order, everything a program refers to
with the place where it does, and `Program.defects` is one defect for each identifier that is declared again and then
one for each reference that leads nowhere.
-/
import Playscript.Program

namespace Playscript

inductive Defect where
  | duplicateCharacter (id : Ident)
  | unknownCharacter (place : Location) (id : Ident)
  | missingAct (place : Location) (target : Nat)
  | missingScene (place : Location) (act target : Nat)
  | nestedConditional (place : Location)
  deriving DecidableEq, Repr

def Defect.message : Defect → String
  | .duplicateCharacter id => s!"character '{id.text}' is declared twice"
  | .unknownCharacter place id => s!"{place.text}: character '{id.text}' is not declared"
  | .missingAct place target => s!"{place.text}: jump to act {target}, which does not exist"
  | .missingScene place act target =>
    s!"{place.text}: jump to scene {target} of act {act}, which does not exist"
  | .nestedConditional place => s!"{place.text}: a conditional cannot guard another conditional"

/-- what a line of a program depends on -/
inductive Reference where
  | character (id : Ident)
  | scene (target : JumpTarget)
  /-- a conditional as the body of a conditional; what it holds is not looked at -/
  | nested
  deriving DecidableEq, Repr

/-- the references of a statement in a place where no conditional may stand -/
def Statement.bodyReferences : Statement → List Reference
  | .assign value => value.mentions.map .character
  | .remember value => value.mentions.map .character
  | .compare c => (c.lhs.mentions ++ c.rhs.mentions).map .character
  | .conditional .. => [.nested]
  | .jump target => [.scene target]
  | .input _ => []
  | .output _ => []
  | .recall => []

def Statement.references : Statement → List Reference
  | .conditional _ body => body.bodyReferences
  | simple => simple.bodyReferences

/-- the references of a line, the speaker before what is said -/
def Line.references : Line → List Reference
  | .direction d => d.mentions.map .character
  | .speech speaker statements => .character speaker :: statements.flatMap Statement.references

def Scene.references (scene : Scene) : List Reference := scene.lines.flatMap Line.references

/-- the act a jump goes to, counted from one -/
def JumpTarget.actFrom (target : JumpTarget) (place : Location) : Nat := target.act.getD place.act

/-- identifiers that occur earlier in the list or in `seen` -/
def repeated (seen : List Ident) : List Ident → List Ident
  | [] => []
  | id :: ids => if id ∈ seen then id :: repeated seen ids else repeated (id :: seen) ids

namespace Program

def declared (program : Program) : List Ident := program.characters.map (·.id)

/-- everything the program refers to, in play order -/
def references (program : Program) : List (Location × Reference) :=
  (program.acts.zipIdx 1).flatMap fun (act, a) =>
    (act.scenes.zipIdx 1).flatMap fun (scene, s) => scene.references.map (⟨a, s⟩, ·)

/-- the scenes of an act counted from one -/
def scenesOf? (program : Program) : (act : Nat) → Option (List Scene)
  | 0 => none
  | i + 1 => (program.acts[i]?).map (·.scenes)

/-- what is wrong with a jump -/
def jumpDefect? (program : Program) (place : Location) (target : JumpTarget) : Option Defect :=
  match program.scenesOf? (target.actFrom place) with
  | none => some (.missingAct place (target.actFrom place))
  | some scenes =>
    if 1 ≤ target.scene ∧ target.scene ≤ scenes.length then none
    else some (.missingScene place (target.actFrom place) target.scene)

/-- what is wrong with a reference -/
def defect? (program : Program) : Location × Reference → Option Defect
  | (place, .character id) => if id ∈ program.declared then none else some (.unknownCharacter place id)
  | (place, .scene target) => program.jumpDefect? place target
  | (place, .nested) => some (.nestedConditional place)

def defects (program : Program) : List Defect :=
  (repeated [] program.declared).map .duplicateCharacter ++ program.references.filterMap program.defect?

end Program

end Playscript
