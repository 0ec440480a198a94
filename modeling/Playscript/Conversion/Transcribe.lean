/-
Plays into programs. Identifiers are derived from the characters' names, acts and scenes must be numbered in sequence,
and names in free text become placeholders again.

`Program.unguarded` lists the conditionals that no comparison of their scene comes before, which a performance may
reach with nothing to decide them.
-/
import Playscript.Play
import Playscript.Sentence.Direction
import Playscript.Sentence.Parsing
import Playscript.Conversion.Error

namespace Playscript

namespace Transcribe

variable (vocabulary : Vocabulary)

/-- the statements of sentences, in order -/
def parseSentences (place : Location) (sentences : List String) : Except ConversionError (List Statement) :=
  match sentences.mapM (Sentence.parse vocabulary) with
  | .ok statements => .ok statements
  | .error cause => .error (.sentence place cause)

def parseLine (place : Location) : PlayLine → Except ConversionError Line
  | .direction text =>
    match Direction.parse vocabulary.cast text with
    | .ok direction => .ok (.direction direction)
    | .error cause => .error (.sentence place cause)
  | .speech name sentences =>
    match vocabulary.cast.identOf name with
    | none => .error (.unknownSpeaker place name)
    | some speaker => do
      let statements ← parseSentences vocabulary place sentences
      return .speech speaker statements

/-- succeeds when `found` is the numeral for `n` -/
def expectNumeral (kind : HeadingKind) (n : Nat) (found : String) : Except ConversionError Unit :=
  match vocabulary.lexicon.parseNumeral found with
  | .ok m => if m = n then .ok () else mismatched
  | .error _ => mismatched
where
  mismatched : Except ConversionError Unit :=
    match vocabulary.lexicon.numeral n with
    | .ok expected => .error (.outOfSequence kind expected found)
    | .error cause => .error (.numeral cause)

/-- the scene at a place -/
def parseScene (place : Location) (scene : PlayScene) : Except ConversionError Scene := do
  expectNumeral vocabulary .scene place.scene scene.numeral
  let lines ← scene.lines.mapM (parseLine vocabulary place)
  return ⟨vocabulary.cast.restore scene.description, lines⟩

/-- the `n`th act -/
def parseAct (n : Nat) (act : PlayAct) : Except ConversionError Act := do
  expectNumeral vocabulary .act n act.numeral
  let scenes ← (act.scenes.zipIdx 1).mapM fun (scene, i) => parseScene vocabulary ⟨n, i⟩ scene
  return ⟨vocabulary.cast.restore act.description, scenes⟩

def parseActs (acts : List PlayAct) : Except ConversionError (List Act) :=
  (acts.zipIdx 1).mapM fun (act, n) => parseAct vocabulary n act

def declarations (personae : List Persona) : List Declaration :=
  (vocabulary.cast.members.zip personae).map fun (member, persona) =>
    ⟨member.1, vocabulary.cast.restore persona.description⟩

end Transcribe

/-- the program of a play -/
def Play.transcribe (lexicon : Lexicon) (play : Play) : Except ConversionError Program :=
  match Cast.recover (play.personae.map (·.name)) with
  | .error cause => .error (.cast cause)
  | .ok cast => do
    let vocabulary := Vocabulary.of lexicon cast
    let acts ← Transcribe.parseActs vocabulary play.acts
    return ⟨cast.restore play.title, Transcribe.declarations vocabulary play.personae, acts⟩

/-! ## Conditionals without a comparison -/

/-- a conditional that no comparison of its scene comes before: its scene, and its line counted from one -/
structure Unguarded where
  place : Location
  line : Nat
  deriving DecidableEq, Repr

def Unguarded.message : String := "conditional has no comparison before it in its scene"

/-- the unguarded conditionals of a program, in order -/
def Program.unguarded (program : Program) : List Unguarded :=
  (program.acts.zipIdx 1).flatMap fun (act, a) =>
    (act.scenes.zipIdx 1).flatMap fun (scene, s) =>
      (scene.guards.filter fun guard => guard.comparison.isNone).map fun guard =>
        ⟨⟨a, s⟩, guard.conditional.line + 1⟩

end Playscript
