/-
Blank characters, and what they do to a text: trimming its ends and cutting it into words.

Blank means the Unicode property White_Space, twenty-five characters in all. A word is a longest run of other
characters, so no word is empty and the number of blanks between two words does not matter.
-/
import Playscript.Text.CodeRanges

namespace Playscript.Text

/-- blank characters above U+007F -/
def blankRanges : CodeRanges := [
  (0x85, 0x85), (0xa0, 0xa0), (0x1680, 0x1680), (0x2000, 0x200a), (0x2028, 0x2029), (0x202f, 0x202f),
  (0x205f, 0x205f), (0x3000, 0x3000)]

def isBlank (c : Char) : Bool :=
  if isAscii c then c == ' ' || (9 ≤ c.toNat && c.toNat ≤ 13) else blankRanges.has c

def dropBlankFront (cs : List Char) : List Char := cs.dropWhile isBlank

def dropBlankBack (cs : List Char) : List Char := (cs.reverse.dropWhile isBlank).reverse

/-- the text without the blanks at its two ends -/
def trimChars (cs : List Char) : List Char := dropBlankBack (dropBlankFront cs)

def trim (s : String) : String := String.ofList (trimChars s.toList)

/-- puts a character in front of the first word -/
def extendFirst (c : Char) : List (List Char) → List (List Char)
  | [] => [[c]]
  | word :: words => (c :: word) :: words

/-- the longest runs of characters that are not blank, in order -/
def splitBlank : List Char → List (List Char)
  | [] => []
  | c :: cs =>
    if isBlank c then splitBlank cs
    else match cs with
      | [] => [[c]]
      | d :: _ => if isBlank d then [c] :: splitBlank cs else extendFirst c (splitBlank cs)

/-- the words of a text -/
def words (s : String) : List String := (splitBlank s.toList).map String.ofList

/-- nothing but blanks, or nothing at all -/
def allBlank (cs : List Char) : Bool := cs.all isBlank

theorem trimChars_nil : trimChars [] = [] := rfl

theorem splitBlank_cons_blank {c : Char} (h : isBlank c = true) (cs : List Char) :
    splitBlank (c :: cs) = splitBlank cs := by
  simp [splitBlank, h]

end Playscript.Text
