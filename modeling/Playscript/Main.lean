/-
The command line: reads arguments and files, runs a command, and writes what it answers. A performance is run step by
step, so that its output appears as it is made and its input is read only when it is needed.
-/
import Playscript.CommandLine.Options

namespace Playscript.CommandLine

def readFile (path : String) : IO FileText := do
  try
    let bytes ← IO.FS.readBinFile path
    return match String.fromUTF8? bytes with
      | some text => .ok text
      | none => .error .notText
  catch
    | .noFileOrDirectory .. => return .error .missing
    | e => return .error (.refused (toString e))

/-- the files that a command needs -/
def sourceOf (program : String) (options : Options) : IO Source := do
  let lexicon ← options.lexicon.mapM readFile
  let file ← readFile program
  return ⟨program, file, lexicon, options.seed⟩

def failed (message : String) : IO UInt32 := do
  IO.eprintln s!"Error: {message}"
  return 1

def runConvert (program : String) (options : Options) : IO UInt32 := do
  match convert (← sourceOf program options) options.form with
  | .error cause => failed cause.message
  | .ok text =>
    match options.output with
    | none => IO.print text; return 0
    | some path =>
      try
        IO.FS.writeFile path text
        return 0
      catch e =>
        IO.eprintln s!"Error writing {path}: {e}"
        return 1

/-- the next line of a stream, unless it has ended -/
def nextLine (stream : IO.FS.Stream) : IO (Option InputLine) := do
  try
    let line ← stream.getLine
    return if line.isEmpty then none else some (some line.toList)
  catch _ => return some none

/-- writes what a performance has printed and reported -/
def drain (p : Performance Streams) : IO (Performance Streams) := do
  let out ← IO.getStdout
  out.putStr p.console.outputText
  out.flush
  IO.eprint p.console.reportText
  return { p with console := p.console.drained }

/-- steps to the end; a step that found no input left is tried again with one more line, unless there is none -/
partial def runSteps (script : Script) (stream : IO.FS.Stream) (p : Performance Streams) :
    IO (Except Fault Unit) := do
  let (outcome, after) := p.step script Streams.console
  let line ← if after.console.input.ended then nextLine stream else pure none
  match line with
  | some line => runSteps script stream { p with console := p.console.supply line }
  | none =>
    let after ← drain after
    match outcome with
    | .ok true => runSteps script stream after
    | .ok false => return .ok ()
    | .error fault => return .error fault

def runPerform (program : String) (options : Options) : IO UInt32 := do
  let opened := (← sourceOf program options).open
  match opened.bind fun (_, program) => Theatre.compile program with
  | .error cause => failed cause.message
  | .ok script =>
    let state := Streams.ofLines options.debug []
    match ← runSteps script (← IO.getStdin) (Performance.start script state) with
    | .ok () => return 0
    | .error fault => failed (TheatreError.fault fault).message

def run (arguments : List String) : IO UInt32 := do
  match Command.ofArguments arguments with
  | none => IO.eprintln usage; return 2
  | some (.convert program options) => runConvert program options
  | some (.perform program options) => runPerform program options

end Playscript.CommandLine

def main (arguments : List String) : IO UInt32 := Playscript.CommandLine.run arguments
