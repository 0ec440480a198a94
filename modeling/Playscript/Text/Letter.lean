/-
The characters that make up a word of running text: letters and digits of any script, and the underscore. An
apostrophe is none of them, so a name followed by one still stands as a whole word.
-/
import Playscript.Text.LetterTable

namespace Playscript.Text

def isAlphanumeric (c : Char) : Bool :=
  if isAscii c then c.isAlphanum else alphanumericRanges.has c

def isWordChar (c : Char) : Bool := isAlphanumeric c || c == '_'

end Playscript.Text
