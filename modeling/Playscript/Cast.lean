/-
The cast: which character of the structured form bears which name in prose.

Names come from a pool, in order, and an identifier keeps the name it was first given. A cast read off a play derives
each identifier from its name. `Cast.substitute` puts names for the placeholders of a text and `Cast.restore` puts
placeholders for the names in one.
-/
import Playscript.Cast.Template
import Playscript.Lexicon
import Playscript.Text.Letter

namespace Playscript

/-- names still to be given out, and the characters that have one, in the order in which they got it -/
structure Cast where
  pool : List String
  members : List (Ident × String)
  deriving DecidableEq, Repr

/-- why a cast cannot do what it is asked -/
inductive CastError where
  | exhausted (id : Ident)
  | duplicateIdentifier (first second : String) (id : Ident)
  | badTemplate (fault : Template.Fault) (text : String)
  deriving DecidableEq, Repr

def CastError.message : CastError → String
  | .exhausted id => s!"every name in the cast is taken; cannot name '{id.text}'"
  | .duplicateIdentifier first second id =>
    s!"names '{first}' and '{second}' both become identifier '{id.text}'"
  | .badTemplate fault text => s!"placeholder error: {fault.text} in '{text}'"

/-- the identifier derived from a proper name: its words in small letters, joined by underscores -/
def identifierFor (name : String) : Ident :=
  ⟨"_".intercalate ((Text.words name).map Text.lowercase)⟩

namespace Cast

/-- a cast of nobody that draws on the given names -/
def ofNames (names : List String) : Cast := ⟨names, []⟩

def ofLexicon (lexicon : Lexicon) : Cast := ofNames lexicon.cast

def nameOf (cast : Cast) (id : Ident) : Option String :=
  (cast.members.find? fun member => member.1 == id).map (·.2)

/-- the character with this name, in whatever letter case -/
def identOf (cast : Cast) (name : String) : Option Ident :=
  let key := Text.lowercase name
  (cast.members.find? fun member => Text.lowercase member.2 == key).map (·.1)

def names (cast : Cast) : List String := cast.members.map (·.2)

/-- whether some character bears this name already -/
def isTaken (cast : Cast) (name : String) : Bool := (cast.identOf name).isSome

/-- the cast with one more character -/
def join (cast : Cast) (id : Ident) (name : String) : Cast :=
  { cast with members := cast.members ++ [(id, name)] }

/-- the name of a character, the first free one of the pool if it has none yet, and the cast after that -/
def allocate (cast : Cast) (id : Ident) : Except CastError (String × Cast) :=
  match cast.nameOf id with
  | some name => .ok (name, cast)
  | none =>
    match cast.pool.findIdx? fun name => !cast.isTaken name with
    | none => .error (.exhausted id)
    | some i =>
      let name := cast.pool.getD i ""
      .ok (name, { cast with pool := cast.pool.eraseIdx i }.join id name)

/-- gives each identifier a name in turn -/
def allocateAll (cast : Cast) : List Ident → Except CastError Cast
  | [] => .ok cast
  | id :: ids => do
    let (_, cast) ← cast.allocate id
    cast.allocateAll ids

/-- adds characters by name, each under the identifier derived from it -/
def recoverFrom (cast : Cast) : List String → Except CastError Cast
  | [] => .ok cast
  | name :: names =>
    let id := identifierFor name
    match cast.nameOf id with
    | some first => .error (.duplicateIdentifier first name id)
    | none => (cast.join id name).recoverFrom names

/-- the cast of a play with these characters -/
def recover (names : List String) : Except CastError Cast := (ofNames []).recoverFrom names

/-! ## Placeholders -/

def templateOf (text : String) : Except CastError (List Template.Segment) :=
  match Template.parse? text with
  | .ok segments => .ok segments
  | .error fault => .error (.badTemplate fault text)

/-- identifiers named by the placeholders of a text -/
def placeholders (text : String) : Except CastError (List Ident) := do
  let segments ← templateOf text
  return Template.placeholders segments

/-- writes segments out in turn; characters seen for the first time get their names on the way, and keep them when a
later segment fails -/
def fill (cast : Cast) : List Template.Segment → Except CastError String × Cast
  | [] => (.ok "", cast)
  | .literal text :: rest =>
    let (answer, cast) := cast.fill rest
    (answer.map (text ++ ·), cast)
  | .placeholder id :: rest =>
    match cast.allocate id with
    | .error e => (.error e, cast)
    | .ok (name, cast) =>
      let (answer, cast) := cast.fill rest
      (answer.map (name ++ ·), cast)

/-- the text with names for its placeholders -/
def substitute (cast : Cast) (text : String) : Except CastError String × Cast :=
  match templateOf text with
  | .error e => (.error e, cast)
  | .ok segments => cast.fill segments

/-! ## Names in running text -/

/-- the rest of a text that begins with `name`, in whatever ASCII case -/
def afterName? (name text : List Char) : Option (List Char) :=
  if Text.sameFolded (text.take name.length) name then some (text.drop name.length) else none

/-- whether `name` stands at the beginning of `text` as a whole word -/
def standsAt (text name : List Char) : Bool :=
  match afterName? name text with
  | some (c :: _) => !Text.isWordChar c
  | some [] => true
  | none => false

/-- the characters whose names are not empty, those with the longest names (in bytes) first -/
def byLength (cast : Cast) : List (Ident × String) :=
  (cast.members.filter fun member => member.2 ≠ "").mergeSort fun a b => b.2.utf8ByteSize ≤ a.2.utf8ByteSize

/-- the first of `members` whose name stands here -/
def nameAt? (members : List (Ident × String)) (text : List Char) : Option (Ident × String) :=
  members.find? fun member => standsAt text member.2.toList

/-- the text with placeholders for names, where `inWord` tells that a word has begun before it -/
def restoreFrom (members : List (Ident × String)) (inWord : Bool) : List Char → List Char
  | [] => []
  | c :: cs =>
    match if inWord then none else nameAt? members (c :: cs) with
    | some (id, name) =>
      Template.placeholderText id ++
        restoreFrom members ((name.toList.getLast?.map Text.isWordChar).getD false)
          (cs.drop (name.length - 1))
    | none => Template.escapeBrace c ++ restoreFrom members (Text.isWordChar c) cs
termination_by text => text.length
decreasing_by
  · rw [List.length_drop, List.length_cons]
    omega
  · rw [List.length_cons]
    omega

/-- the text with placeholders for the whole words that name characters, longer names first, and its braces doubled -/
def restore (cast : Cast) (text : String) : String :=
  String.ofList (restoreFrom cast.byLength false text.toList)

end Cast

end Playscript
