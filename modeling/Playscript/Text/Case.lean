/-
Small and capital letters of the whole of Unicode.

A letter may have several characters for its counterpart, and a capital sigma becomes a final sigma at the end of a
word. Two texts count as one word in this library when `lowercase` makes them equal.
-/
import Playscript.Text.CaseTable

namespace Playscript.Text

def CaseRun.covers (run : CaseRun) (n : Nat) : Bool :=
  run.first ≤ n && n ≤ run.last && (n - run.first) % run.stride == 0

/-- the counterpart of a character under the first run that covers it -/
def shiftCase (runs : List CaseRun) (c : Char) : Char :=
  match runs.find? (·.covers c.toNat) with
  | some run => Char.ofNat (c.toNat + run.shift).toNat
  | none => c

/-- the small form of a character on its own -/
def smallForm (c : Char) : List Char :=
  if isAscii c then [c.toLower]
  else match smallLetterSequences.lookup c.toNat with
    | some codes => codes.map Char.ofNat
    | none => [shiftCase smallLetterRuns c]

/-- the capital form of a character on its own -/
def capitalForm (c : Char) : List Char :=
  if isAscii c then [c.toUpper]
  else match capitalLetterSequences.lookup c.toNat with
    | some codes => codes.map Char.ofNat
    | none => [shiftCase capitalLetterRuns c]

/-- whether a letter with case is reached from here, past characters that take no part in case -/
def reachesCased (cs : List Char) : Bool :=
  match cs.dropWhile caseIgnorableRanges.has with
  | c :: _ => casedRanges.has c
  | [] => false

/-- a capital sigma after `before` (nearest first) and in front of `after` -/
def smallSigma (before after : List Char) : Char :=
  if reachesCased before && !reachesCased after then 'ς' else 'σ'

/-- the small form of a text, given what stands in front of it, nearest first -/
def lowercaseFrom (before : List Char) : List Char → List Char
  | [] => []
  | c :: cs =>
    (if c = 'Σ' then [smallSigma before cs] else smallForm c) ++ lowercaseFrom (c :: before) cs

def lowercase (s : String) : String := String.ofList (lowercaseFrom [] s.toList)

/-- the text with its first character made capital -/
def capitalizeFirst (s : String) : String :=
  match s.toList with
  | [] => ""
  | c :: cs => String.ofList (capitalForm c ++ cs)

/-- the text with its first character made small -/
def lowercaseFirst (s : String) : String :=
  match s.toList with
  | [] => ""
  | c :: cs => String.ofList (smallForm c ++ cs)

end Playscript.Text
