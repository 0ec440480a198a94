/-
Laying programs out in the object notation: four blanks for each level, every list and every group of fields broken
over lines with a comma after each element, and types written before their groups. A program nested too deeply has no
layout: a list or a group of fields counts for two levels, and a wrapper around one value for one.
-/
import Playscript.Notation.Node
import Playscript.Program
import Playscript.Script.Text
import Playscript.Text.Quoted

namespace Playscript.Notation

/-- how a value is written: how deeply it is nested, and its text at a level of indentation -/
structure Layout where
  depth : Nat
  text : Nat → String

namespace Layout

def indent (level : Nat) : String := String.ofList (List.replicate (4 * level) ' ')

def plain (text : String) : Layout := ⟨0, fun _ => text⟩

def quoted (text : String) : Layout := plain (Text.enquote true text)

/-- a variant or a wrapper around one value -/
def around (name : String) (inner : Layout) : Layout :=
  ⟨inner.depth + 1, fun level => name ++ "(" ++ inner.text level ++ ")"⟩

/-- the largest of some depths -/
def deepest (layouts : List Layout) : Nat := layouts.foldl (fun depth layout => max depth layout.depth) 0

/-- lines between an opening and a closing mark, one level further in, each with a comma at its end -/
def broken (opening closing : String) (lines : List Layout) : Layout where
  depth := deepest lines + 2
  text level :=
    opening ++ "\n" ++ String.join (lines.map fun line => indent (level + 1) ++ line.text (level + 1) ++ ",\n") ++
      indent level ++ closing

def listed : List Layout → Layout
  | [] => plain "[]"
  | items => broken "[" "]" items

def field (name : String) (value : Layout) : Layout :=
  ⟨value.depth, fun level => name ++ ": " ++ value.text level⟩

def group (name : String) (fields : List (String × Layout)) : Layout :=
  broken (name ++ "(") ")" (fields.map fun (name, value) => field name value)

def option (value : Option Layout) : Layout :=
  match value with
  | none => plain "None"
  | some layout => around "Some" layout

end Layout

open Layout

def layIdent (id : Ident) : Layout := around "Ident" (quoted id.text)

def layBool (b : Bool) : Layout := plain (toString b)

def layValue : Value → Layout
  | .constant n => around "Constant" (plain (toString n.toInt))
  | .binary op lhs rhs =>
    group "Binary" [("op", plain op.label), ("lhs", layValue lhs), ("rhs", layValue rhs)]
  | .unary op operand => group "Unary" [("op", plain op.label), ("operand", layValue operand)]
  | .character id => around "Character" (layIdent id)
  | .role partner => around "Role" (plain partner.name)

def layComparison (c : Comparison) : Layout :=
  group "Comparison"
    [("relation", plain c.relation.label), ("negated", layBool c.negated), ("lhs", layValue c.lhs),
      ("rhs", layValue c.rhs)]

def layNumber (n : Nat) : Layout := plain (toString n)

def layTarget (target : JumpTarget) : Layout :=
  group "JumpTarget" [("act", option (target.act.map layNumber)), ("scene", layNumber target.scene)]

def layStatement : Statement → Layout
  | .assign value => around "Assign" (layValue value)
  | .compare c => around "Compare" (layComparison c)
  | .conditional polarity body =>
    group "Conditional" [("polarity", layBool polarity), ("body", layStatement body)]
  | .jump target => around "Jump" (layTarget target)
  | .input channel => around "Input" (plain channel.label)
  | .output channel => around "Output" (plain channel.label)
  | .remember value => around "Remember" (layValue value)
  | .recall => plain "Recall"

def layDirection : StageDirection → Layout
  | .enter ids => around "Enter" (listed (ids.map layIdent))
  | .exit id => around "Exit" (layIdent id)
  | .exeunt ids => around "Exeunt" (listed (ids.map layIdent))

def layLine : Line → Layout
  | .direction d => around "Direction" (layDirection d)
  | .speech speaker statements =>
    group "Speech" [("speaker", layIdent speaker), ("statements", listed (statements.map layStatement))]

def layScene (scene : Scene) : Layout :=
  group "Scene" [("description", quoted scene.description), ("lines", listed (scene.lines.map layLine))]

def layAct (act : Act) : Layout :=
  group "Act" [("description", quoted act.description), ("scenes", listed (act.scenes.map layScene))]

def layDeclaration (declaration : Declaration) : Layout :=
  group "Declaration" [("id", layIdent declaration.id), ("description", quoted declaration.description)]

def layProgram (program : Program) : Layout :=
  group "Program"
    [("title", quoted program.title), ("characters", listed (program.characters.map layDeclaration)),
      ("acts", listed (program.acts.map layAct))]

/-- the program as a text, unless it is nested too deeply -/
def writeProgram (program : Program) : Option String :=
  let layout := layProgram program
  if layout.depth ≤ nestingLimit then some (layout.text 0) else none

end Playscript.Notation
