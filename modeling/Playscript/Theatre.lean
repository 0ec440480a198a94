/-
A theatre holds a lexicon and a seed, and does everything there is to do with programs and plays: one into the other,
compiling, performing, loading from files and writing to them.
-/
import Playscript.Conversion.Dramatize
import Playscript.Conversion.Transcribe
import Playscript.Lexicon.Standard
import Playscript.Notation.Layout
import Playscript.Notation.ReadLexicon
import Playscript.Notation.ReadProgram
import Playscript.Performance.Step
import Playscript.Play.Layout
import Playscript.Play.Reading
import Playscript.Script.Compile

namespace Playscript

/-- why a file has no text -/
inductive FileError where
  | missing
  | notText
  /-- any other answer of the system -/
  | refused (reason : String)
  deriving DecidableEq, Repr

def FileError.message : FileError → String
  | .missing => "No such file or directory (os error 2)"
  | .notText => "stream did not contain valid UTF-8"
  | .refused reason => reason

/-- the text of a file, if it can be had -/
abbrev FileText := Except FileError String

/-- why there is no lexicon -/
inductive LexiconError where
  | file (cause : FileError)
  /-- the text is no lexicon in the object notation -/
  | malformed
  | flawed (flaw : Flaw)
  deriving DecidableEq, Repr

def LexiconError.message : LexiconError → String
  | .file cause => s!"IO error: {cause.message}"
  | .malformed => "RON deserialization error"
  | .flawed flaw => flaw.message

/-- why a theatre cannot do what it is asked -/
inductive TheatreError where
  | lexicon (cause : LexiconError)
  | conversion (cause : ConversionError)
  | play (cause : PlayError)
  | defects (defects : List Defect)
  | fault (fault : Fault)
  | file (cause : FileError)
  /-- a text is no program in the object notation -/
  | malformed
  /-- a program is nested too deeply for the object notation -/
  | tooDeep
  /-- a performance took more steps than it was given -/
  | endless
  deriving DecidableEq, Repr

def TheatreError.message : TheatreError → String
  | .lexicon cause => s!"lexicon error: {cause.message}"
  | .conversion cause => s!"translation error: {cause.message}"
  | .play cause => s!"play error: {cause.message}"
  | .defects found =>
    let messages := "; ".intercalate (found.map Defect.message)
    s!"{found.length} compile error(s): {messages}"
  | .fault stop => s!"runtime error at {stop.message}"
  | .file cause => s!"IO error: {cause.message}"
  | .malformed => "RON error"
  | .tooDeep => "RON serialization error"
  | .endless => "the performance did not end"

/-- an outcome with its cause of failure as a theatre tells it -/
def told {ε α : Type} (wrap : ε → TheatreError) : Except ε α → Except TheatreError α
  | .ok a => .ok a
  | .error cause => .error (wrap cause)

namespace Lexicon

def validated (lexicon : Lexicon) : Except LexiconError Lexicon :=
  match lexicon.flaw? with
  | none => .ok lexicon
  | some flaw => .error (.flawed flaw)

/-- the lexicon that a text holds, if it is valid -/
def ofText (text : String) : Except LexiconError Lexicon :=
  match Notation.readLexicon text with
  | none => .error .malformed
  | some lexicon => lexicon.validated

def ofFile (file : FileText) : Except LexiconError Lexicon :=
  match file with
  | .ok text => ofText text
  | .error cause => .error (.file cause)

end Lexicon

structure Theatre where
  lexicon : Lexicon
  seed : UInt64
  deriving DecidableEq, Repr

namespace Theatre

/-- a theatre with the lexicon given, else that of the file, else the standard one -/
def build (seed : UInt64) (given : Option Lexicon) (file : Option FileText) : Except TheatreError Theatre :=
  match given, file with
  | some lexicon, _ => do
    let lexicon ← told .lexicon lexicon.validated
    return ⟨lexicon, seed⟩
  | none, some file => do
    let lexicon ← told .lexicon (Lexicon.ofFile file)
    return ⟨lexicon, seed⟩
  | none, none => .ok ⟨Lexicon.standard, seed⟩

def dramatize (theatre : Theatre) (program : Program) : Except TheatreError Play :=
  told .conversion (program.dramatize theatre.lexicon theatre.seed)

def transcribe (theatre : Theatre) (play : Play) : Except TheatreError Program :=
  told .conversion (play.transcribe theatre.lexicon)

def compile (program : Program) : Except TheatreError Script := told .defects program.compile

/-! ## Files -/

/-- the program that a text in the object notation holds -/
def programOfText (text : String) : Except TheatreError Program :=
  match Notation.readProgram text with
  | some program => .ok program
  | none => .error .malformed

def playOfText (text : String) : Except TheatreError Play := told .play (Play.parse text)

/-- whether the last part of a file's name, after its last dot and not at its beginning, is `ron` -/
def isStructured (name : String) : Bool :=
  let base := (name.toList.reverse.takeWhile (· != '/')).reverse
  match base.reverse.dropWhile (· != '.') with
  | _ :: _ :: _ => base.reverse.takeWhile (· != '.') == "nor".toList
  | _ => false

/-- the program of a file in either form, by its name -/
def load (theatre : Theatre) (name : String) (file : FileText) : Except TheatreError Program := do
  let text ← told .file file
  if isStructured name then programOfText text
  else
    let play ← playOfText text
    theatre.transcribe play

/-- the program in the object notation -/
def write (program : Program) : Except TheatreError String :=
  match Notation.writeProgram program with
  | some text => .ok text
  | none => .error .tooDeep

/-! ## Performances -/

/-- how a performance of at most `limit` steps ends, and the state it leaves its console in -/
def performScript {σ : Type} (limit : Nat) (script : Script) (console : Console σ) (state : σ) :
    Except TheatreError Unit × σ :=
  match (Performance.start script state).run script console limit with
  | (none, p) => (.error .endless, p.console)
  | (some (.ok ()), p) => (.ok (), p.console)
  | (some (.error fault), p) => (.error (.fault fault), p.console)

/-- compiles and performs a program -/
def perform {σ : Type} (limit : Nat) (program : Program) (console : Console σ) (state : σ) :
    Except TheatreError Unit × σ :=
  match compile program with
  | .ok script => performScript limit script console state
  | .error cause => (.error cause, state)

/-- transcribes, compiles and performs a play -/
def performPlay {σ : Type} (theatre : Theatre) (limit : Nat) (play : Play) (console : Console σ) (state : σ) :
    Except TheatreError Unit × σ :=
  match theatre.transcribe play with
  | .ok program => perform limit program console state
  | .error cause => (.error cause, state)

end Theatre

end Playscript
