/-
Free text with placeholders. A template is characters other than braces, doubled braces standing for single ones, and
identifiers between single braces. `pieces` reads it one piece at a time; `Template.parse?` gathers the characters
between placeholders into literals, none of them empty.
-/
import Playscript.Value
import Playscript.Text.Blank

namespace Playscript.Template

/-- why a text is no template -/
inductive Fault where
  | unclosed
  | empty
  | unmatched
  deriving DecidableEq, Repr

def Fault.text : Fault → String
  | .unclosed => "unclosed brace"
  | .empty => "empty braces"
  | .unmatched => "unmatched closing brace"

/-- the smallest parts of a template -/
inductive Piece where
  | char (c : Char)
  | placeholder (id : Ident)
  deriving DecidableEq, Repr

/-- a piece of free text: characters to be taken as they are, or an identifier to be replaced -/
inductive Segment where
  | literal (text : String)
  | placeholder (id : Ident)
  deriving DecidableEq, Repr

def isBrace (c : Char) : Bool := c == '\x7b' || c == '\x7d'

/-- the identifier between two braces, blanks at its ends left out -/
def identifier? (content : List Char) : Except Fault Ident :=
  match Text.trimChars content with
  | [] => .error .empty
  | letters => .ok ⟨String.ofList letters⟩

/-- the pieces of a text, left to right, or the first fault -/
def pieces : List Char → Except Fault (List Piece)
  | [] => .ok []
  | c :: cs =>
    if c = '\x7b' then
      if cs.head? = some '\x7b' then do
        let rest ← pieces cs.tail
        return .char '\x7b' :: rest
      else if (cs.dropWhile fun c => !isBrace c).head? = some '\x7d' then do
        let id ← identifier? (cs.takeWhile fun c => !isBrace c)
        let rest ← pieces (cs.dropWhile fun c => !isBrace c).tail
        return .placeholder id :: rest
      else .error .unclosed
    else if c = '\x7d' then
      if cs.head? = some '\x7d' then do
        let rest ← pieces cs.tail
        return .char '\x7d' :: rest
      else .error .unmatched
    else do
      let rest ← pieces cs
      return .char c :: rest
termination_by cs => cs.length
decreasing_by
  · rw [List.length_tail, List.length_cons]
    omega
  · have := (List.dropWhile_suffix (fun c => !isBrace c) (l := cs)).length_le
    rw [List.length_tail, List.length_cons]
    omega
  · rw [List.length_tail, List.length_cons]
    omega
  · rw [List.length_cons]
    omega

/-- puts a character in front of the first segment -/
def consChar (c : Char) : List Segment → List Segment
  | .literal text :: rest => .literal (String.singleton c ++ text) :: rest
  | rest => .literal (String.singleton c) :: rest

/-- pieces with the characters between placeholders joined -/
def gather : List Piece → List Segment
  | [] => []
  | .char c :: rest => consChar c (gather rest)
  | .placeholder id :: rest => .placeholder id :: gather rest

def parse? (text : String) : Except Fault (List Segment) := do
  let parts ← pieces text.toList
  return gather parts

/-- the identifiers that the placeholders of a template name -/
def placeholders (segments : List Segment) : List Ident :=
  segments.filterMap fun
    | .placeholder id => some id
    | .literal _ => none

/-- a character of plain text as a template spells it -/
def escapeBrace (c : Char) : List Char := if isBrace c then [c, c] else [c]

/-- a placeholder as a template spells it -/
def placeholderText (id : Ident) : List Char := '\x7b' :: id.text.toList ++ ['\x7d']

end Playscript.Template
