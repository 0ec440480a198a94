/-
The two commands: converting a program from one form into the other, and performing one. A command is a value of its
options, and its outcome a function of them and of the files and the input it is given; `Playscript.Main` only reads
arguments and files and writes the outcome.
-/
import Playscript.Console.Streams
import Playscript.Theatre

namespace Playscript.CommandLine

/-- the two forms of a program -/
inductive Form where
  | prose
  | structured
  deriving DecidableEq, Repr

/-- what both commands need: a program's file, and the lexicon's file if one is named -/
structure Source where
  name : String
  file : FileText
  lexicon : Option FileText
  seed : UInt64

/-- the theatre and the program that a command works on -/
def Source.open (source : Source) : Except TheatreError (Theatre × Program) := do
  let theatre ← Theatre.build source.seed none source.lexicon
  let program ← theatre.load source.name source.file
  return (theatre, program)

/-- the other form than that of the file -/
def otherForm (name : String) : Form := if Theatre.isStructured name then .prose else .structured

/-- the program in the form asked for, or else in the other form than it has -/
def convert (source : Source) (target : Option Form) : Except TheatreError String := do
  let (theatre, program) ← source.open
  match target.getD (otherForm source.name) with
  | .prose =>
    let play ← theatre.dramatize program
    return play.render
  | .structured => Theatre.write program

/-- performs the program of a file on lines of input -/
def perform (limit : Nat) (source : Source) (debug : Bool) (lines : List InputLine) :
    Except TheatreError Unit × Streams :=
  let state := Streams.ofLines debug lines
  match source.open with
  | .error cause => (.error cause, state)
  | .ok (_, program) => Theatre.perform limit program Streams.console state

end Playscript.CommandLine
