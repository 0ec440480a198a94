/-
Numerals of acts and scenes. A lexicon counts from one to the length of its table; what a numeral stands for is the
first place at which it is listed.
-/
import Playscript.Lexicon
import Playscript.Words

namespace Playscript

/-- why a numeral or a jump cannot be written or read -/
inductive JumpError where
  /-- the table of numerals ends at `last` -/
  | numeralOutOfRange (n last : Nat)
  | unknownNumeral (word : String)
  | mismatch (mismatch : Mismatch)
  deriving DecidableEq, Repr

def JumpError.message : JumpError → String
  | .numeralOutOfRange n last => s!"no numeral for {n}; the lexicon counts to {last}"
  | .unknownNumeral word => s!"'{word}' is not a numeral"
  | .mismatch m => m.message

namespace Lexicon

/-- the numeral for a place counted from one -/
def numeral (lexicon : Lexicon) (n : Nat) : Except JumpError String :=
  match n with
  | 0 => .error (.numeralOutOfRange 0 lexicon.numerals.length)
  | i + 1 =>
    match lexicon.numerals[i]? with
    | some word => .ok word
    | none => .error (.numeralOutOfRange (i + 1) lexicon.numerals.length)

/-- the place, counted from one, that a numeral stands for -/
def parseNumeral (lexicon : Lexicon) (word : String) : Except JumpError Nat :=
  match lexicon.numerals.findIdx? fun numeral => Text.same numeral word with
  | some i => .ok (i + 1)
  | none => .error (.unknownNumeral word)

end Lexicon

end Playscript
