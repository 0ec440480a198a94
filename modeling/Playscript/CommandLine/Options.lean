/-
The arguments of the command line: a command, then options and the program's file in any order. The value of an option
stands after it or behind an equals sign. Arguments that make no command have no reading.
-/
import Playscript.CommandLine
import Playscript.Text.Decimal

namespace Playscript.CommandLine

/-- what the arguments after a command may say -/
structure Options where
  program : Option String
  lexicon : Option String
  seed : UInt64
  debug : Bool
  form : Option Form
  output : Option String
  deriving DecidableEq, Repr

/-- a command with its options; a program's file is always named -/
inductive Command where
  | convert (program : String) (options : Options)
  | perform (program : String) (options : Options)
  deriving DecidableEq, Repr

namespace Options

def none : Options := ⟨.none, .none, 0, false, .none, .none⟩

/-- a seed: a decimal number of 64 bits -/
def seed? (text : String) : Option UInt64 :=
  (Text.readNatural text.toList).bind fun n => if n < UInt64.size then some (UInt64.ofNat n) else .none

def form? (text : String) : Option Form :=
  if text = "prose" then some .prose
  else if text = "structured" then some .structured
  else .none

/-- the option of this name set to a value -/
def set (options : Options) (name value : String) : Option Options :=
  if name = "--lexicon" then some { options with lexicon := some value }
  else if name = "--seed" then (seed? value).map fun seed => { options with seed := seed }
  else if name = "--to" then (form? value).map fun form => { options with form := some form }
  else if name = "--output" ∨ name = "-o" then some { options with output := some value }
  else .none

/-- an argument that stands alone: a switch, an option with its value, or the program's file -/
def add (options : Options) (argument : String) : Option Options :=
  let letters := argument.toList
  if argument = "--debug" then some { options with debug := true }
  else if letters.head? = some '-' then
    match letters.dropWhile (· != '=') with
    | _ :: value => options.set (String.ofList (letters.takeWhile (· != '='))) (String.ofList value)
    | [] => .none
  else if options.program.isNone then some { options with program := some argument }
  else .none

/-- options that take the argument after them for a value -/
def takesValue (name : String) : Bool := ["--lexicon", "--seed", "--to", "--output", "-o"].contains name

def read (options : Options) : List String → Option Options
  | [] => some options
  | [argument] => options.add argument
  | argument :: next :: rest =>
    if takesValue argument then do
      let options ← options.set argument next
      options.read rest
    else do
      let options ← options.add argument
      options.read (next :: rest)

end Options

/-- the command that arguments make, if they make one -/
def Command.ofArguments : List String → Option Command
  | [] => none
  | word :: arguments => do
    let options ← Options.none.read arguments
    let program ← options.program
    if word = "convert" ∧ !options.debug then return .convert program options
    else if word = "perform" ∧ options.form.isNone ∧ options.output.isNone then return .perform program options
    else none

def usage : String :=
  "usage: playscript convert <program> [--to prose|structured] [--seed <n>] [--lexicon <path>] [--output <path>]\n" ++
    "       playscript perform <program> [--lexicon <path>] [--seed <n>] [--debug]"

end Playscript.CommandLine
