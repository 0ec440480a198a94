/-
Programs into plays. First every character gets a name, declared characters before those that only free text mentions,
and names are put into the free texts; then the lines are composed in order, with one source of choices for the whole
play.
-/
import Playscript.Play
import Playscript.Sentence.Composing
import Playscript.Sentence.Direction
import Playscript.Conversion.Error

namespace Playscript

/-- computations that give names to characters as they go -/
abbrev Naming := StateT Cast (Except CastError)

namespace Naming

/-- the text with names for its placeholders -/
def fill (text : String) : Naming String := fun cast =>
  match cast.substitute text with
  | (.ok filled, cast) => .ok (filled, cast)
  | (.error e, _) => .error e

def fillScene (scene : Scene) : Naming Scene := do
  let description ← fill scene.description
  return { scene with description := description }

def fillAct (act : Act) : Naming Act := do
  let scenes ← act.scenes.mapM fillScene
  let description ← fill act.description
  return ⟨description, scenes⟩

def fillDeclaration (declaration : Declaration) : Naming Declaration := do
  let description ← fill declaration.description
  return { declaration with description := description }

/-- the program with names for the placeholders of its free texts -/
def fillProgram (program : Program) : Naming Program := do
  let title ← fill program.title
  let characters ← program.characters.mapM fillDeclaration
  let acts ← program.acts.mapM fillAct
  return ⟨title, characters, acts⟩

/-- the program with its free texts filled in, and the cast that this takes -/
def ofProgram (lexicon : Lexicon) (program : Program) : Except CastError (Program × Cast) := do
  let cast ← (Cast.ofLexicon lexicon).allocateAll (program.characters.map (·.id))
  fillProgram program cast

end Naming

namespace Dramatize

variable (vocabulary : Vocabulary)

def composeSpeech (place : Location) (speaker : Ident) (statements : List Statement) :
    Choosing ConversionError PlayLine :=
  match vocabulary.cast.nameOf speaker with
  | none => throw (.unnamedSpeaker place speaker)
  | some name => do
    let sentences ← ExceptT.adapt (.sentence place) (statements.mapM (Sentence.compose vocabulary speaker))
    return .speech name sentences

def composeLine (place : Location) : Line → Choosing ConversionError PlayLine
  | .direction direction =>
    match Direction.compose vocabulary.cast direction with
    | .ok text => return .direction text
    | .error cause => throw (.sentence place cause)
  | .speech speaker statements => composeSpeech vocabulary place speaker statements

/-- the numeral of an act or a scene -/
def numbered (n : Nat) : Choosing ConversionError String :=
  match vocabulary.lexicon.numeral n with
  | .ok numeral => return numeral
  | .error cause => throw (.numeral cause)

/-- the scene at a place; its free text is filled in already -/
def composeScene (place : Location) (scene : Scene) : Choosing ConversionError PlayScene := do
  let lines ← scene.lines.mapM (composeLine vocabulary place)
  let numeral ← numbered vocabulary place.scene
  return ⟨numeral, scene.description, lines⟩

/-- the `n`th act; its free texts are filled in already -/
def composeAct (n : Nat) (act : Act) : Choosing ConversionError PlayAct := do
  let scenes ← (act.scenes.zipIdx 1).mapM fun (scene, i) => composeScene vocabulary ⟨n, i⟩ scene
  let numeral ← numbered vocabulary n
  return ⟨numeral, act.description, scenes⟩

def composeActs (acts : List Act) : Choosing ConversionError (List PlayAct) :=
  (acts.zipIdx 1).mapM fun (act, n) => composeAct vocabulary n act

def personae (declarations : List Declaration) : List Persona :=
  declarations.map fun declaration =>
    ⟨(vocabulary.cast.nameOf declaration.id).getD "", declaration.description⟩

end Dramatize

/-- the play of a program, its words chosen by the seed -/
def Program.dramatize (lexicon : Lexicon) (seed : UInt64) (program : Program) : Except ConversionError Play :=
  match Naming.ofProgram lexicon program with
  | .error cause => .error (.cast cause)
  | .ok (filled, cast) => do
    let vocabulary := Vocabulary.of lexicon cast
    let acts ← (Dramatize.composeActs vocabulary filled.acts (Generator.ofSeed seed)).1
    return ⟨filled.title, Dramatize.personae vocabulary filled.characters, acts⟩

end Playscript
