/-
Cutting running text into sentences: each ends at the first full stop, exclamation mark or question mark, and what is
left after the last mark is a sentence too. Blank pieces are dropped.
-/
import Playscript.Text.Blank
import Playscript.Words

namespace Playscript

/-- the text cut after every mark that ends a sentence -/
def cutAfterMarks : List Char → List (List Char)
  | [] => []
  | c :: cs => if isTerminator c then [c] :: cutAfterMarks cs else Text.extendFirst c (cutAfterMarks cs)

def sentencesOf (cs : List Char) : List (List Char) :=
  ((cutAfterMarks cs).map Text.trimChars).filter fun sentence => !sentence.isEmpty

/-- the sentences of a text, trimmed -/
def splitSentences (text : String) : List String := (sentencesOf text.toList).map String.ofList

end Playscript
