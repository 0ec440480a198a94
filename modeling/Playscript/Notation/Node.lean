/-
The object notation as a tree. A group in parentheses, with or without a name in front, holds either fields or items in
order; lists stand in brackets and tables in braces. Commas separate and may also end a row. `Some` marks one value,
which stands in parentheses unless the text has asked for leniency; the notation's other words never open a group.

A text may open by switching on leniencies of the notation. Nesting is limited to 128 levels. How many levels a value
takes depends on what it is read as; for one that is passed over, `fits` counts a level for a mark and two for a list,
a table or a group.
-/
import Playscript.Notation.Token

namespace Playscript.Notation

/-- leniencies that a text may ask for -/
structure Leniency where
  /-- the parentheses after `Some` may be left out, and the word itself where a value that may be missing is expected -/
  implicitSome : Bool
  /-- wrappers around a single value are left out -/
  bareWrappers : Bool
  /-- a wrapper or group directly inside a named one is left out -/
  bareInside : Bool
  deriving DecidableEq, Repr

def Leniency.strict : Leniency := ⟨false, false, false⟩

inductive Node where
  | word (raw : Bool) (name : String)
  | number (text : String)
  | text (text : String)
  | char (c : Char)
  | list (items : List Node)
  | table (entries : List (Node × Node))
  | items (name : Option String) (items : List Node)
  | fields (name : Option String) (fields : List (String × Node))
  /-- a value that is marked as being there -/
  | some (node : Node)
  deriving Repr

/-- whether a value that is passed over nests within `levels`; what is empty takes one level, or none if it has neither
name nor brackets -/
def Node.fits : (levels : Nat) → Node → Bool
  | levels + 2, .list row => row.all (fits levels)
  | levels + 2, .table row => row.all fun (key, value) => fits levels key && fits levels value
  | levels + 2, .items _ row => row.all (fits levels)
  | levels + 2, .fields _ row => row.all fun (_, value) => fits levels value
  | levels + 1, .some node => fits levels node
  | levels, .list row => row.isEmpty && 1 ≤ levels
  | levels, .table row => row.isEmpty && 1 ≤ levels
  | levels, .items name row => row.isEmpty && (name = none || 1 ≤ levels)
  | _, .fields _ _ => false
  | _, .some _ => false
  | _, _ => true

/-- rows of items up to a closing mark, at most `count` of them -/
def readRow {α : Type} (item : List Token → Option (α × List Token)) (closing : Char) :
    (count : Nat) → List Token → Option (List α × List Token)
  | 0, ts => if ts.head? = some (.mark closing) then some ([], ts.tail) else none
  | count + 1, ts =>
    if ts.head? = some (.mark closing) then some ([], ts.tail)
    else do
      let (first, ts) ← item ts
      match ts with
      | .mark ',' :: ts =>
        let (row, ts) ← readRow item closing count ts
        return (first :: row, ts)
      | .mark c :: ts => if c = closing then return ([first], ts) else none
      | _ => none

/-- a row without a bound of its own: it has no more items than there are tokens -/
def readAll {α : Type} (item : List Token → Option (α × List Token)) (closing : Char) (ts : List Token) :
    Option (List α × List Token) :=
  readRow item closing ts.length ts

/-- a name, a colon and a value -/
def readField (value : List Token → Option (Node × List Token)) :
    List Token → Option ((String × Node) × List Token)
  | .name _ field :: .mark ':' :: ts => do
    let (node, ts) ← value ts
    return ((field, node), ts)
  | _ => none

/-- a value, a colon and a value -/
def readEntry (value : List Token → Option (Node × List Token)) (ts : List Token) :
    Option ((Node × Node) × List Token) := do
  match ← value ts with
  | (key, .mark ':' :: ts) =>
    let (node, ts) ← value ts
    return ((key, node), ts)
  | _ => none

/-- the rest of a group after its opening parenthesis -/
def readGroup (value : List Token → Option (Node × List Token)) (name : Option String) (ts : List Token) :
    Option (Node × List Token) :=
  match ts with
  | .name _ _ :: .mark ':' :: _ => do
    let (fields, ts) ← readAll (readField value) ')' ts
    return (.fields name fields, ts)
  | _ => do
    let (items, ts) ← readAll value ')' ts
    return (.items name items, ts)

/-- the one value in parentheses that `Some` marks, or the value right after it where that is allowed -/
def readSome (bare : Bool) (value : List Token → Option (Node × List Token)) (ts : List Token) :
    Option (Node × List Token) :=
  match ts with
  | .mark '(' :: ts => do
    match ← readAll value ')' ts with
    | ([node], ts) => return (.some node, ts)
    | _ => none
  | ts => do
    let (node, ts) ← if bare then value ts else none
    return (.some node, ts)

/-- words of the notation that stand for a value on their own, so that no group follows them -/
def isValueWord (name : String) : Bool := ["true", "false", "None", "inf", "NaN"].contains name

/-- a value in which fewer than `depth` others are nested, and the tokens after it -/
def readNode (leniency : Leniency) : (depth : Nat) → List Token → Option (Node × List Token)
  | 0, _ => none
  | depth + 1, ts =>
    let value := readNode leniency depth
    match ts with
    | .name false "Some" :: ts => readSome leniency.implicitSome value ts
    | .name raw name :: .mark '(' :: ts => if !raw && isValueWord name then none else readGroup value (some name) ts
    | .name raw name :: ts => some (.word raw name, ts)
    | .mark '(' :: ts => readGroup value none ts
    | .mark '[' :: ts => (readAll value ']' ts).map fun (items, ts) => (.list items, ts)
    | .mark '\x7b' :: ts => (readAll (readEntry value) '\x7d' ts).map fun (entries, ts) => (.table entries, ts)
    | .number text :: ts => some (.number text, ts)
    | .text text :: ts => some (.text text, ts)
    | .char c :: ts => some (.char c, ts)
    | _ => none

/-! ## Leniencies -/

def Leniency.add (leniency : Leniency) (name : String) : Option Leniency :=
  if name = "implicit_some" then some { leniency with implicitSome := true }
  else if name = "unwrap_newtypes" then some { leniency with bareWrappers := true }
  else if name = "unwrap_variant_newtypes" then some { leniency with bareInside := true }
  else none

def readLeniency : List Token → Option (String × List Token)
  | .name _ name :: ts => some (name, ts)
  | _ => none

/-- the leniencies that a text switches on at its beginning, in at most `count` groups -/
def readLeniencies (leniency : Leniency) : (count : Nat) → List Token → Option (Leniency × List Token)
  | count + 1, .mark '#' :: ts =>
    match ts with
    | .mark '!' :: .mark '[' :: .name false "enable" :: .mark '(' :: ts => do
      let (names, ts) ← readAll readLeniency ')' ts
      if names.isEmpty then none
      else
        let leniency ← names.foldlM Leniency.add leniency
        match ts with
        | .mark ']' :: ts => readLeniencies leniency count ts
        | _ => none
    | _ => none
  | _, ts => some (leniency, ts)

def nestingLimit : Nat := 128

/-- the one value of a text, and the leniencies it asks for. Whatever a value is read as, each one nested in it takes at
least one level, so a text that nests more of them than there are levels holds none. -/
def parse? (text : String) : Option (Leniency × Node) := do
  let ts ← tokens? text
  let (leniency, ts) ← readLeniencies .strict ts.length ts
  match ← readNode leniency (nestingLimit + 1) ts with
  | (node, []) => return (leniency, node)
  | _ => none

end Playscript.Notation
