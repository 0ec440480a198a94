/-
Text between quotation marks. Tabs, line ends, quotation marks, backslashes and the zero character have short escapes;
a character that cannot be shown, or that would join the one before it, is written by its code point in hexadecimal.
-/
import Playscript.Text.PrintableTable

namespace Playscript.Text

/-- whether a character can be shown as it is -/
def isPrintable (c : Char) : Bool :=
  if isAscii c then 0x20 ≤ c.toNat && c.toNat < 0x7f
  else !(unprintableRanges.has c || extendingRanges.has c)

/-- a character by its code point: backslash, `u`, and hexadecimal digits between braces -/
def codePointEscape (c : Char) : List Char :=
  ['\\', 'u', '\x7b'] ++ Nat.toDigits 16 c.toNat ++ ['\x7d']

/-- how a character is written inside quotation marks; the apostrophe only on demand -/
def escapeChar (apostrophe : Bool) (c : Char) : List Char :=
  match c with
  | '\x00' => ['\\', '0']
  | '\t' => ['\\', 't']
  | '\n' => ['\\', 'n']
  | '\r' => ['\\', 'r']
  | '"' => ['\\', '"']
  | '\\' => ['\\', '\\']
  | '\'' => if apostrophe then ['\\', '\''] else ['\'']
  | c => if isPrintable c then [c] else codePointEscape c

def enquote (apostrophe : Bool) (s : String) : String :=
  String.ofList ('"' :: s.toList.flatMap (escapeChar apostrophe) ++ ['"'])

/-- the text as a reader of a message sees it: apostrophes stay as they are -/
def quoted (s : String) : String := enquote false s

end Playscript.Text
