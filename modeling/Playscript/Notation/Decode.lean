/-
Reading typed values out of trees of the object notation. A group may leave its type's name out but not give another
one; fields come in any order, fields of other names are passed over, and no field may be given twice.

A reader is told within how many levels its value may nest. A list or a group of fields takes two levels, a variant two
or, if it holds fields, three, and a wrapper around a single value one; texts, numbers and truth values take none.
-/
import Playscript.Notation.Node

namespace Playscript.Notation

/-- how a value is read off a tree, within some levels of nesting -/
abbrev Reader (α : Type) := (levels : Nat) → Node → Option α

/-! ## Single values -/

def textOf : Reader String
  | _, .text text => some text
  | _, _ => none

def boolOf : Reader Bool
  | _, .word false "true" => some true
  | _, .word false "false" => some false
  | _, _ => none

/-- an integer of 64 bits, with or without a sign -/
def signedOf : Reader Int64
  | _, .number text => (integerOf text.toList).bind narrow
  | _, _ => none

/-- a number of 64 bits without a sign -/
def unsignedOf : Reader Nat
  | _, .number text => (magnitude text.toList).filter (· < UInt64.size)
  | _, _ => none

def listOf {α : Type} (item : Reader α) : Reader (List α)
  | levels + 2, .list items => items.mapM (item levels)
  | _, _ => none

/-- a value that may be missing; where its mark may be left out, a number may also follow the mark in the same word -/
def optionOf {α : Type} (leniency : Leniency) (item : Reader α) : Reader (Option α)
  | _, .word false "None" => some none
  | levels + 1, .some node => (item levels node).map some
  | levels + 1, node =>
    let bare := match node with
      | .word false name => (after? "Some".toList name.toList).map fun digits => Node.number (String.ofList digits)
      | node => some node
    if leniency.implicitSome then (bare.bind (item levels)).map some else none
  | _, _ => none

/-! ## Groups of fields -/

/-- fields, and within how many levels their values may nest -/
structure Group where
  levels : Nat
  fields : List (String × Node)

namespace Group

/-- a group of fields, of which those not known by name are passed over -/
def open? (known : List String) : (levels : Nat) → List (String × Node) → Option Group
  | levels + 2, fields =>
    if fields.all fun (name, node) => known.contains name || node.fits levels then some ⟨levels, fields⟩ else none
  | _, _ => none

/-- a field that may be missing, but not given twice -/
def get? (group : Group) (name : String) : Option (Option Node) :=
  match group.fields.filter fun field => field.1 == name with
  | [] => some none
  | [field] => some (some field.2)
  | _ => none

/-- a field that must be there -/
def field {α : Type} (group : Group) (name : String) (item : Reader α) : Option α := do
  item group.levels (← (group.get? name).join)

/-- a field of a type with a value for when it is missing -/
def fieldOr {α : Type} (group : Group) (name : String) (missing : α) (item : Reader α) : Option α := do
  match ← group.get? name with
  | some node => item group.levels node
  | none => return missing

end Group

/-- the fields of a group of this type; an empty group has none -/
def groupOf (type : String) (known : List String) : Reader Group
  | levels, .fields name fields => if name = none ∨ name = some type then Group.open? known levels fields else none
  | levels, .items name [] => if name = none ∨ name = some type then Group.open? known levels [] else none
  | _, _ => none

/-! ## Variants and wrappers -/

/-- what a variant holds -/
inductive Held where
  | nothing
  | one (node : Node)
  | fields (fields : List (String × Node))

/-- the name of a variant and what it holds -/
def variantOf : Node → Option (String × Held)
  | .word _ name => some (name, .nothing)
  | .items (some name) [node] => some (name, .one node)
  | .fields (some name) fields => some (name, .fields fields)
  | _ => none

/-- a variant that holds nothing, by its name -/
def choiceOf {α : Type} (choices : List (String × α)) : Reader α
  | _ + 2, .word _ name => choices.lookup name
  | _, _ => none

/-- a wrapper of this type around a single value -/
def wrapped {α : Type} (bare : Bool) (type : String) (item : Reader α) : Reader α
  | levels + 1, node =>
    if bare then item levels node
    else match node with
      | .items name [inner] => if name = none ∨ name = some type then item levels inner else none
      | _ => none
  | _, _ => none

end Playscript.Notation
