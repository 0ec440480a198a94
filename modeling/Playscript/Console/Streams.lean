/-
The console of a program run from a command line: input by lines, output and reports each on a stream of their own.
What was written last comes first.
-/
import Playscript.Console.Lines

namespace Playscript

structure Streams where
  debug : Bool
  input : LineInput
  output : List String
  reports : List String
  deriving DecidableEq, Repr

namespace Streams

def ofLines (debug : Bool) (lines : List InputLine) : Streams := ⟨debug, LineInput.ofLines lines, [], []⟩

/-- runs a reading on the input -/
def reading (read : LineInput → Except ConsoleError String × LineInput) (state : Streams) :
    Except ConsoleError String × Streams :=
  let (answer, input) := read state.input
  (answer, { state with input := input })

def console : Console Streams where
  print := fun text state => (.ok (), { state with output := text :: state.output })
  readCharacter := reading LineInput.readCharacter
  readInteger := reading LineInput.readInteger
  wantsReports := (·.debug)
  report := fun text state => (.ok (), { state with reports := (text ++ "\n") :: state.reports })
  clear := fun state => (.ok (), { state with input := { state.input with pending := [] } })

/-- all that was printed -/
def outputText (state : Streams) : String := String.join state.output.reverse

/-- all that was reported, one report a line -/
def reportText (state : Streams) : String := String.join state.reports.reverse

/-- the streams with nothing waiting to be written -/
def drained (state : Streams) : Streams := { state with output := [], reports := [] }

/-- the streams with one more line of input at the end -/
def supply (line : InputLine) (state : Streams) : Streams :=
  { state with input := { state.input with unread := state.input.unread ++ [line], ended := false } }

end Streams

end Playscript
