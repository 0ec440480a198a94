/-
The text of stage directions: who enters, exits, or leaves with others.
-/
import Playscript.Sentence.Parsing
import Playscript.Vocabulary

namespace Playscript.Direction

/-! ## Composing -/

def nameOf (cast : Cast) (id : Ident) : Except SentenceError String :=
  match cast.nameOf id with
  | some name => .ok name
  | none => .error (.unknownCharacter id)

def namesOf (cast : Cast) : List Ident → Except SentenceError (List String)
  | [] => .ok []
  | id :: ids => do
    let name ← nameOf cast id
    let names ← namesOf cast ids
    return name :: names

/-- the names with commas between them, and "and" before the last -/
def listed : List String → String
  | [] => ""
  | [name] => name
  | [first, last] => first ++ " and " ++ last
  | first :: rest => first ++ ", " ++ listed rest

/-- the text of a direction without brackets -/
def compose (cast : Cast) : StageDirection → Except SentenceError String
  | .enter [] => .error .emptyEntrance
  | .enter ids => do
    let names ← namesOf cast ids
    return "Enter " ++ listed names
  | .exit id => do
    let name ← nameOf cast id
    return "Exit " ++ name
  | .exeunt [] => .ok "Exeunt"
  | .exeunt ids => do
    let names ← namesOf cast ids
    return "Exeunt " ++ listed names

/-! ## Parsing -/

/-- the character whose name comes next, the longest of those that fit -/
def readName (cast : Cast) (ws : Words) : Except SentenceError (Ident × Words) :=
  match Words.eatLongest cast.names ws with
  | some (name, rest) =>
    match cast.identOf name with
    | some id => .ok (id, rest)
    | none => .error (.unknownName name)
  | none =>
    match ws with
    | word :: _ => .error (.unknownName word)
    | [] => .error (.mismatch (Words.mismatch [] "character name"))

/-- the words after the "," or "and" that stands between two names -/
def readSeparator (ws : Words) : Except SentenceError Words :=
  match Words.eat "," ws <|> Words.eat "and" ws with
  | some rest => .ok rest
  | none => .error (.mismatch (ws.mismatch "and"))

/-- at most `count` further names, each after a separator, up to the end of the words -/
def readMoreNames (cast : Cast) : (count : Nat) → Words → Except SentenceError (List Ident)
  | _, [] => .ok []
  | 0, _ => .ok []
  | count + 1, ws => do
    let ws ← readSeparator ws
    let (id, ws) ← readName cast ws
    let ids ← readMoreNames cast count ws
    return id :: ids

/-- names up to the end of the words -/
def readNames (cast : Cast) : Words → Except SentenceError (List Ident)
  | [] => .ok []
  | ws => do
    let (id, rest) ← readName cast ws
    let ids ← readMoreNames cast rest.length rest
    return id :: ids

/-- the text without the bracket at either end -/
def dropBrackets (cs : List Char) : List Char :=
  let cs := if cs.head? = some '[' then cs.tail else cs
  if cs.getLast? = some ']' then cs.dropLast else cs

/-- the direction that a text gives, with or without its brackets -/
def parse (cast : Cast) (text : String) : Except SentenceError StageDirection :=
  let ws := Words.ofText (String.ofList (dropBrackets (Text.trimChars text.toList)))
  match Words.eat "enter" ws with
  | some rest => do
    let ids ← readNames cast rest
    if ids.isEmpty then throw .emptyEntrance
    return .enter ids
  | none =>
  match Words.eat "exit" ws with
  | some rest => do
    let (id, rest) ← readName cast rest
    Sentence.expectEnd rest
    return .exit id
  | none =>
  match Words.eat "exeunt" ws with
  | some rest => do
    let ids ← readNames cast rest
    return .exeunt ids
  | none => .error (.unrecognized (Text.trim text))

end Playscript.Direction
