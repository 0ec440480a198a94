/-
Reading a play from its layout, line by line.

Blank lines and indentation do not matter. The first line is the title, the lines up to the first heading of an act
introduce characters, and from there on a line is a heading, a direction between brackets, a speaker before a colon, or
more of the speech that is going on. `Draft.step` takes one line, so the first line that does not fit ends the reading
whatever follows it.
-/
import Playscript.Play
import Playscript.Play.Sentences
import Playscript.Text.Fold

namespace Playscript

/-- why a text is no play; lines are counted from one -/
inductive PlayError where
  | missingTitle
  | persona (line : Nat) (text : String)
  | unknownSpeaker (line : Nat) (name : String)
  | stray (line : Nat) (text : String)
  | unterminatedDirection (line : Nat) (text : String)
  deriving DecidableEq, Repr

def PlayError.message : PlayError → String
  | .missingTitle => "the play has no title"
  | .persona line text =>
    s!"line {line}: expected 'Name, description.' in the dramatis personae, found '{text}'"
  | .unknownSpeaker line name => s!"line {line}: '{name}' speaks but is not in the dramatis personae"
  | .stray line text => s!"line {line}: unexpected text '{text}'"
  | .unterminatedDirection line text => s!"line {line}: unterminated stage direction '{text}'"

/-! ## Lines -/

/-- the text cut at its line feeds -/
def splitLines : List Char → List (List Char)
  | [] => [[]]
  | c :: cs => if c = '\n' then [] :: splitLines cs else Text.extendFirst c (splitLines cs)

/-- the lines that are not blank, trimmed, with their numbers -/
def numberedLines (text : String) : List (Nat × List Char) :=
  (((splitLines text.toList).zipIdx 1).map fun (line, n) => (n, Text.trimChars line)).filter
    fun (_, line) => !line.isEmpty

/-- what stands before and after the first `mark`, if there is one -/
def splitOnce (mark : Char) (cs : List Char) : Option (List Char × List Char) :=
  match cs.dropWhile (· != mark) with
  | _ :: after => some (cs.takeWhile (· != mark), after)
  | [] => none

/-- a numeral and a description, as a heading gives them -/
structure Heading where
  numeral : String
  description : String
  deriving DecidableEq, Repr

/-- a line "Keyword numeral: description", the keyword in any letter case -/
def heading? (keyword : String) (line : List Char) : Option Heading :=
  if Text.sameFolded (line.take keyword.length) keyword.toList then
    match line.drop keyword.length with
    | ' ' :: rest =>
      match splitOnce ':' rest with
      | some (numeral, description) =>
        let numeral := Text.trimChars numeral
        if numeral.isEmpty || numeral.any Text.isBlank then none
        else some ⟨String.ofList numeral, String.ofList (Text.trimChars description)⟩
      | none => none
    | _ => none
  else none

/-- a line "Name, description" -/
def persona? (line : List Char) : Option Persona :=
  (splitOnce ',' line).map fun (name, description) =>
    ⟨String.ofList (Text.trimChars name), String.ofList (Text.trimChars description)⟩

/-! ## Drafts -/

/-- what has been read of a play: the speech that is going on stands apart from the acts -/
structure Draft where
  title : Option String
  personae : List Persona
  acts : List PlayAct
  speech : Option (String × String)
  deriving DecidableEq, Repr

/-- changes the last element of a list -/
def modifyLast {α : Type} (f : α → α) : List α → List α
  | [] => []
  | [a] => [f a]
  | a :: as => a :: modifyLast f as

namespace Draft

def blank : Draft := ⟨none, [], [], none⟩

/-- the draft with a scene added to its last act -/
def addScene (draft : Draft) (scene : PlayScene) : Draft :=
  { draft with acts := modifyLast (fun act => { act with scenes := act.scenes ++ [scene] }) draft.acts }

/-- the draft with a line added to its last scene -/
def addLine (draft : Draft) (line : PlayLine) : Draft :=
  let grow := fun scene : PlayScene => { scene with lines := scene.lines ++ [line] }
  { draft with acts := modifyLast (fun act => { act with scenes := modifyLast grow act.scenes }) draft.acts }

/-- the draft with the speech that is going on, if any, put into its scene -/
def closeSpeech (draft : Draft) : Draft :=
  match draft.speech with
  | none => draft
  | some (speaker, text) =>
    { draft with speech := none }.addLine (.speech speaker (splitSentences text))

/-- whether a scene has been opened in the last act -/
def inScene (draft : Draft) : Bool :=
  match draft.acts.getLast? with
  | some act => !act.scenes.isEmpty
  | none => false

/-- the character who speaks under this name -/
def speaker? (draft : Draft) (name : String) : Option String :=
  (draft.personae.find? fun persona => Text.same persona.name name).map (·.name)

/-- a line of text in the speech that is going on -/
def continueSpeech (draft : Draft) (n : Nat) (line : String) : Except PlayError Draft :=
  match draft.speech with
  | none => .error (.stray n line)
  | some (speaker, text) =>
    .ok { draft with speech := some (speaker, if text = "" then line else text ++ " " ++ line) }

/-- a line that is no heading, below the first act's -/
def readLine (draft : Draft) (n : Nat) (line : List Char) : Except PlayError Draft :=
  let text := String.ofList line
  if line.head? = some '[' then
    if line.tail.getLast? ≠ some ']' then .error (.unterminatedDirection n text)
    else if draft.inScene then
      .ok (draft.closeSpeech.addLine (.direction (String.ofList (Text.trimChars line.tail.dropLast))))
    else .error (.stray n text)
  else if line.getLast? = some ':' then
    let name := String.ofList (Text.trimChars line.dropLast)
    match draft.speaker? name with
    | none => .error (.unknownSpeaker n name)
    | some speaker =>
      if draft.inScene then .ok { draft.closeSpeech with speech := some (speaker, "") }
      else .error (.stray n text)
  else draft.continueSpeech n text

/-- takes one line that is not blank -/
def step (draft : Draft) (numbered : Nat × List Char) : Except PlayError Draft :=
  let (n, line) := numbered
  if draft.title = none then .ok { draft with title := some (String.ofList line) }
  else match heading? "Act" line with
  | some h =>
    let draft := draft.closeSpeech
    .ok { draft with acts := draft.acts ++ [⟨h.numeral, h.description, []⟩] }
  | none =>
    if draft.acts.isEmpty then
      match persona? line with
      | some persona => .ok { draft with personae := draft.personae ++ [persona] }
      | none => .error (.persona n (String.ofList line))
    else match heading? "Scene" line with
    | some h => .ok (draft.closeSpeech.addScene ⟨h.numeral, h.description, []⟩)
    | none => draft.readLine n line

/-- takes lines in turn, up to the first that does not fit -/
def steps (draft : Draft) : List (Nat × List Char) → Except PlayError Draft
  | [] => .ok draft
  | line :: lines => do
    let draft ← draft.step line
    draft.steps lines

/-- the play that a draft has become when the text ends -/
def finish (draft : Draft) : Except PlayError Play :=
  match draft.title with
  | none => .error .missingTitle
  | some title => .ok ⟨title, draft.personae, draft.closeSpeech.acts⟩

end Draft

def Play.parse (text : String) : Except PlayError Play := do
  let draft ← Draft.blank.steps (numberedLines text)
  draft.finish

end Playscript
