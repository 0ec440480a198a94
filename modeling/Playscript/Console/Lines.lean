/-
Input line by line, as it comes from a stream.

A character is taken from the current line, its ending included; an integer takes the rest of a line, and blank lines
before it are passed over. A line that is no text makes the reading that needs it fail, and is gone after that.

`ended` tells that some reading found no line left; an outer layer that can still supply lines does so and tries again.
-/
import Playscript.Console
import Playscript.Text.Blank

namespace Playscript

/-- one line with its ending, or none where the stream holds no text -/
abbrev InputLine := Option (List Char)

structure LineInput where
  /-- what is left of the current line -/
  pending : List Char
  unread : List InputLine
  ended : Bool
  deriving DecidableEq, Repr

namespace LineInput

def ofLines (lines : List InputLine) : LineInput := ⟨[], lines, false⟩

/-- the first of the pending characters, or no text if there are none -/
def takePending : List Char → String × List Char
  | [] => ("", [])
  | c :: cs => (String.singleton c, cs)

/-- the next character, or no text at the end of the input -/
def readCharacter (input : LineInput) : Except ConsoleError String × LineInput :=
  match input.pending, input.unread with
  | [], [] => (.ok "", { input with ended := true })
  | [], none :: rest => (.error .notText, { input with unread := rest })
  | [], some line :: rest =>
    (.ok (takePending line).1, { input with pending := (takePending line).2, unread := rest })
  | pending, _ => (.ok (takePending pending).1, { input with pending := (takePending pending).2 })

/-- the rest of the first line from here on that is not blank, trimmed -/
def readRest (pending : List Char) : List InputLine → Except ConsoleError String × LineInput
  | [] =>
    if Text.allBlank pending then (.ok "", ⟨[], [], true⟩)
    else (.ok (String.ofList (Text.trimChars pending)), ⟨[], [], false⟩)
  | line :: rest =>
    if Text.allBlank pending then
      match line with
      | none => (.error .notText, ⟨[], rest, false⟩)
      | some line => readRest line rest
    else (.ok (String.ofList (Text.trimChars pending)), ⟨[], line :: rest, false⟩)

/-- the text of an integer, or no text if only blanks are left -/
def readInteger (input : LineInput) : Except ConsoleError String × LineInput :=
  readRest input.pending input.unread

end LineInput

/-! ## Lines of bytes -/

/-- bytes cut after every line feed -/
def cutLines : List UInt8 → List (List UInt8)
  | [] => []
  | b :: bs =>
    if b = 10 then [b] :: cutLines bs
    else match cutLines bs with
      | [] => [[b]]
      | line :: lines => (b :: line) :: lines

/-- the text that bytes are the UTF-8 form of -/
def textOfBytes (bytes : List UInt8) : Option String := String.fromUTF8? ⟨bytes.toArray⟩

def linesOfBytes (bytes : List UInt8) : List InputLine :=
  (cutLines bytes).map fun line => (textOfBytes line).map String.toList

end Playscript
