/-
Programs in the object notation.
-/
import Playscript.Notation.Decode
import Playscript.Program

namespace Playscript.Notation

variable (leniency : Leniency)

/-- an identifier; `inside` tells that it stands directly inside a variant -/
def readIdent (inside : Bool) : Reader Ident := fun levels node =>
  (wrapped (leniency.bareWrappers || inside && leniency.bareInside) "Ident" textOf levels node).map Ident.mk

def readRole : Reader Role := choiceOf [("Speaker", .speaker), ("Addressee", .addressee)]

def readBinaryOp : Reader BinaryOp :=
  choiceOf [("Add", .add), ("Sub", .sub), ("Mul", .mul), ("Div", .div), ("Rem", .rem)]

def readUnaryOp : Reader UnaryOp :=
  choiceOf [("Square", .square), ("Cube", .cube), ("SquareRoot", .squareRoot), ("Factorial", .factorial)]

def readRelation : Reader Relation :=
  choiceOf [("Equal", .equal), ("Greater", .greater), ("Less", .less)]

def readChannel : Reader Channel := choiceOf [("Character", .character), ("Integer", .integer)]

/-- a value that holds no other values -/
def readSimpleValue : Reader Value
  | levels + 2, node => do
    match ← variantOf node with
    | ("Constant", .one node) => return .constant (← signedOf levels node)
    | ("Character", .one node) => return .character (← readIdent leniency true levels node)
    | ("Role", .one node) => return .role (← readRole levels node)
    | _ => none
  | _, _ => none

def readValue : Reader Value
  | levels + 3, node =>
    match variantOf node with
    | some ("Binary", .fields fields) => do
      let group ← Group.open? ["op", "lhs", "rhs"] (levels + 2) fields
      let op ← group.field "op" readBinaryOp
      let lhs ← group.field "lhs" fun _ => readValue levels
      let rhs ← group.field "rhs" fun _ => readValue levels
      return .binary op lhs rhs
    | some ("Unary", .fields fields) => do
      let group ← Group.open? ["op", "operand"] (levels + 2) fields
      let op ← group.field "op" readUnaryOp
      let operand ← group.field "operand" fun _ => readValue levels
      return .unary op operand
    | _ => readSimpleValue leniency (levels + 3) node
  | levels, node => readSimpleValue leniency levels node

/-- the group of fields that a variant holds, with or without parentheses of its own -/
def heldGroup (type : String) (known : List String) (levels : Nat) : Held → Option Group
  | .one node => if leniency.bareInside then none else groupOf type known levels node
  | .fields fields => if leniency.bareInside then Group.open? known levels fields else none
  | .nothing => none

def readComparison (levels : Nat) (held : Held) : Option Comparison := do
  let group ← heldGroup leniency "Comparison" ["relation", "negated", "lhs", "rhs"] levels held
  let relation ← group.field "relation" readRelation
  let negated ← group.field "negated" boolOf
  let lhs ← group.field "lhs" (readValue leniency)
  let rhs ← group.field "rhs" (readValue leniency)
  return ⟨relation, negated, lhs, rhs⟩

def readTarget (levels : Nat) (held : Held) : Option JumpTarget := do
  let group ← heldGroup leniency "JumpTarget" ["act", "scene"] levels held
  let act ← group.fieldOr "act" none (optionOf leniency unsignedOf)
  let scene ← group.field "scene" unsignedOf
  return ⟨act, scene⟩

/-- a statement that holds no other statement -/
def readSimpleStatement : Reader Statement
  | levels + 2, node => do
    match ← variantOf node with
    | ("Assign", .one node) => return .assign (← readValue leniency levels node)
    | ("Remember", .one node) => return .remember (← readValue leniency levels node)
    | ("Compare", held) => return .compare (← readComparison leniency levels held)
    | ("Jump", held) => return .jump (← readTarget leniency levels held)
    | ("Input", .one node) => return .input (← readChannel levels node)
    | ("Output", .one node) => return .output (← readChannel levels node)
    | ("Recall", .nothing) => return .recall
    | _ => none
  | _, _ => none

def readStatement : Reader Statement
  | levels + 3, node =>
    match variantOf node with
    | some ("Conditional", .fields fields) => do
      let group ← Group.open? ["polarity", "body"] (levels + 2) fields
      let polarity ← group.field "polarity" boolOf
      let body ← group.field "body" fun _ => readStatement levels
      return .conditional polarity body
    | _ => readSimpleStatement leniency (levels + 3) node
  | levels, node => readSimpleStatement leniency levels node

def readDirection : Reader StageDirection
  | levels + 2, node => do
    match ← variantOf node with
    | ("Enter", .one node) => return .enter (← listOf (readIdent leniency false) levels node)
    | ("Exit", .one node) => return .exit (← readIdent leniency true levels node)
    | ("Exeunt", .one node) => return .exeunt (← listOf (readIdent leniency false) levels node)
    | _ => none
  | _, _ => none

def readLine : Reader Line
  | levels + 2, node => do
    match ← variantOf node with
    | ("Direction", .one node) => return .direction (← readDirection leniency levels node)
    | ("Speech", .fields fields) =>
      let group ← Group.open? ["speaker", "statements"] (levels + 1) fields
      let speaker ← group.field "speaker" (readIdent leniency false)
      let statements ← group.field "statements" (listOf (readStatement leniency))
      return .speech speaker statements
    | _ => none
  | _, _ => none

def readScene : Reader Scene := fun levels node => do
  let group ← groupOf "Scene" ["description", "lines"] levels node
  let description ← group.field "description" textOf
  let lines ← group.field "lines" (listOf (readLine leniency))
  return ⟨description, lines⟩

def readAct : Reader Act := fun levels node => do
  let group ← groupOf "Act" ["description", "scenes"] levels node
  let description ← group.field "description" textOf
  let scenes ← group.field "scenes" (listOf (readScene leniency))
  return ⟨description, scenes⟩

def readDeclaration : Reader Declaration := fun levels node => do
  let group ← groupOf "Declaration" ["id", "description"] levels node
  let id ← group.field "id" (readIdent leniency false)
  let description ← group.field "description" textOf
  return ⟨id, description⟩

def programOf : Reader Program := fun levels node => do
  let group ← groupOf "Program" ["title", "characters", "acts"] levels node
  let title ← group.field "title" textOf
  let characters ← group.field "characters" (listOf (readDeclaration leniency))
  let acts ← group.field "acts" (listOf (readAct leniency))
  return ⟨title, characters, acts⟩

/-- the program that a text holds -/
def readProgram (text : String) : Option Program := do
  let (leniency, node) ← parse? text
  programOf leniency nestingLimit node

end Playscript.Notation
