/-
Tokens of the object notation in which structured programs and lexicons are kept in files: brackets and other marks,
names, numbers, and quoted texts. A name may be written raw; it then never stands for one of the words that the
notation keeps for itself. Blanks are the space, the tab and line ends; comments run to the end of the line or nest
between marks of their own, and stand wherever blanks may.
-/
import Playscript.Arithmetic

namespace Playscript.Notation

inductive Token where
  | mark (c : Char)
  | name (raw : Bool) (text : String)
  | number (text : String)
  | text (text : String)
  | char (c : Char)
  deriving DecidableEq, Repr

/-! ## Blanks and comments -/

def isSpace (c : Char) : Bool := c == ' ' || c == '\t' || c == '\n' || c == '\r'

/-- what follows a comment nested `depth + 1` deep, if all of it is closed -/
def afterComment : (depth : Nat) → List Char → Option (List Char)
  | 0, '*' :: '/' :: cs => some cs
  | depth + 1, '*' :: '/' :: cs => afterComment depth cs
  | depth, '/' :: '*' :: cs => afterComment (depth + 1) cs
  | depth, _ :: cs => afterComment depth cs
  | _, [] => none

/-! ## Names -/

def isNameStart (c : Char) : Bool := c.isAlpha || c == '_'

def isNameChar (c : Char) : Bool := c.isAlphanum || c == '_'

/-- characters of a name written after a raw mark -/
def isRawNameChar (c : Char) : Bool := isNameChar c || c == '.' || c == '+' || c == '-'

/-- a name and what follows it; no name but `Some` may run on into a character that only a raw name may have -/
def readName (cs : List Char) : Option (Token × List Char) :=
  let name := String.ofList (cs.takeWhile isNameChar)
  let rest := cs.dropWhile isNameChar
  if name ≠ "Some" ∧ (rest.head?.map isRawNameChar).getD false then none else some (.name false name, rest)

def readRawName (cs : List Char) : Option (Token × List Char) :=
  some (.name true (String.ofList (cs.takeWhile isRawNameChar)), cs.dropWhile isRawNameChar)

/-! ## Quoted texts -/

def hexValue (c : Char) : Option Nat :=
  if c.isDigit then some (c.toNat - '0'.toNat)
  else if 'a' ≤ c ∧ c ≤ 'f' then some (c.toNat - 'a'.toNat + 10)
  else if 'A' ≤ c ∧ c ≤ 'F' then some (c.toNat - 'A'.toNat + 10)
  else none

/-- the number that a row of hexadecimal digits stands for -/
def hexNumber (digits : List Char) : Option Nat :=
  digits.foldlM (fun acc c => (hexValue c).map (acc * 16 + ·)) 0

/-- the character of a code point, if it has one -/
def charOfCode (n : Nat) : Option Char :=
  if n < 0xd800 ∨ 0xdfff < n ∧ n < 0x110000 then some (Char.ofNat n) else none

/-- a code point in braces, one to six hexadecimal digits, after its mark -/
def readCodePoint (cs : List Char) : Option (Char × List Char) :=
  match cs with
  | '\x7b' :: cs =>
    let digits := (cs.take 6).takeWhile (· != '\x7d')
    match cs.drop digits.length with
    | '\x7d' :: rest =>
      if digits.isEmpty then none else (hexNumber digits).bind fun n => (charOfCode n).map (·, rest)
    | _ => none
  | _ => none

/-- the character that an escape stands for, after its backslash, and what follows it -/
def readEscape : List Char → Option (Char × List Char)
  | '\'' :: cs => some ('\'', cs)
  | '"' :: cs => some ('"', cs)
  | '\\' :: cs => some ('\\', cs)
  | 'n' :: cs => some ('\n', cs)
  | 'r' :: cs => some ('\r', cs)
  | 't' :: cs => some ('\t', cs)
  | '0' :: cs => some ('\x00', cs)
  | 'x' :: a :: b :: cs => (hexNumber [a, b]).map fun n => (Char.ofNat n, cs)
  | 'u' :: cs => readCodePoint cs
  | _ => none

/-- a quoted text of at most `count` characters, after its opening mark, and what follows it -/
def readQuoted : (count : Nat) → List Char → Option (List Char × List Char)
  | _, '"' :: cs => some ([], cs)
  | count + 1, '\\' :: cs => do
    let (c, cs) ← readEscape cs
    let (text, rest) ← readQuoted count cs
    return (c :: text, rest)
  | count + 1, c :: cs => do
    let (text, rest) ← readQuoted count cs
    return (c :: text, rest)
  | _, _ => none

/-- what follows a text that begins as `start` does -/
def after? (start : List Char) (cs : List Char) : Option (List Char) :=
  if start.isPrefixOf cs then some (cs.drop start.length) else none

/-- a text without escapes up to its closing mark, and what follows that -/
def readVerbatim (closing : List Char) : List Char → Option (List Char × List Char)
  | [] => none
  | c :: cs =>
    match after? closing (c :: cs) with
    | some rest => some ([], rest)
    | none => (readVerbatim closing cs).map fun (text, rest) => (c :: text, rest)

/-- a text between marks of as many hashes as it opens with, or a raw name -/
def readRaw (cs : List Char) : Option (Token × List Char) :=
  let hashes := cs.takeWhile (· == '#')
  match hashes, cs.drop hashes.length with
  | _, '"' :: cs =>
    (readVerbatim ('"' :: hashes) cs).map fun (text, rest) => (.text (String.ofList text), rest)
  | [_], c :: cs => if isRawNameChar c then readRawName (c :: cs) else none
  | _, _ => none

/-- one character, possibly escaped, after the opening apostrophe -/
def readChar (cs : List Char) : Option (Token × List Char) :=
  let found := match cs with
    | '\\' :: cs => readEscape cs
    | '\'' :: _ => none
    | c :: cs => some (c, cs)
    | [] => none
  match found with
  | some (c, '\'' :: rest) => some (.char c, rest)
  | _ => none

/-! ## Numbers -/

def isNumberStart (c : Char) : Bool := c.isDigit || c == '+' || c == '-' || c == '.'

/-- the base that a row of digits announces, and its digits -/
def baseOf : List Char → Nat × List Char
  | '0' :: 'x' :: cs => (16, cs)
  | '0' :: 'o' :: cs => (8, cs)
  | '0' :: 'b' :: cs => (2, cs)
  | cs => (10, cs)

/-- the number that digits of a base stand for, underscores between them ignored -/
def digitsValue (base : Nat) (digits : List Char) : Option Nat :=
  digits.foldlM (fun acc c =>
    if c == '_' then some acc
    else (hexValue c).bind fun d => if d < base then some (acc * base + d) else none) 0

/-- the number of a row of digits without a sign, which neither is empty nor opens with an underscore -/
def magnitude (cs : List Char) : Option Nat :=
  match baseOf cs with
  | (_, []) => none
  | (_, '_' :: _) => none
  | (base, digits) => digitsValue base digits

/-- the integer that a number's text stands for -/
def integerOf (cs : List Char) : Option Int :=
  match cs with
  | '-' :: cs => (magnitude cs).map fun n => -(n : Int)
  | '+' :: cs => (magnitude cs).map fun n => (n : Int)
  | cs => (magnitude cs).map fun n => (n : Int)

def isSign (c : Char) : Bool := c == '+' || c == '-'

/-- a decimal fraction without its sign: digits around a point, and an exponent if there is one -/
def isFraction (cs : List Char) : Bool :=
  let whole := cs.takeWhile Char.isDigit
  let rest := cs.dropWhile Char.isDigit
  let (part, rest) := match rest with
    | '.' :: rest => (rest.takeWhile Char.isDigit, rest.dropWhile Char.isDigit)
    | rest => ([], rest)
  let ends := match rest with
    | [] => true
    | e :: exponent =>
      let digits := if (exponent.head?.map isSign).getD false then exponent.tail else exponent
      (e == 'e' || e == 'E') && !digits.isEmpty && digits.all Char.isDigit
  !(whole.isEmpty && part.isEmpty) && ends

/-- infinities and undefined numbers with a sign; without one they are names -/
def isUnbounded (cs : List Char) : Bool :=
  ["+inf", "-inf", "+NaN", "-NaN"].contains (String.ofList cs)

/-- an integer that fits in 64 bits, where one with a sign leaves a bit to it -/
def isInteger (cs : List Char) : Bool :=
  match integerOf cs with
  | some n => if (cs.head?.map isSign).getD false then (narrow n).isSome else n < UInt64.size
  | none => false

/-- whether a number's text is well formed; an integer that is too large counts as a fraction -/
def isNumber (cs : List Char) : Bool :=
  let unsigned := if (cs.head?.map isSign).getD false then cs.tail else cs
  isInteger cs || isFraction unsigned || isUnbounded cs

def readNumber (cs : List Char) : Option (Token × List Char) :=
  let token := cs.takeWhile isRawNameChar
  if isNumber token then some (.number (String.ofList token), cs.dropWhile isRawNameChar) else none

/-! ## Token rows -/

def isMark (c : Char) : Bool := "()[]\x7b\x7d:,#!".toList.contains c

/-- the token at the front of a text, and what follows it -/
def readToken (cs : List Char) : Option (Token × List Char) :=
  match cs with
  | [] => none
  | '"' :: rest => (readQuoted rest.length rest).map fun (text, rest) => (.text (String.ofList text), rest)
  | '\'' :: rest => readChar rest
  | 'r' :: '"' :: rest => readRaw ('"' :: rest)
  | 'r' :: '#' :: rest => readRaw ('#' :: rest)
  | c :: rest =>
    if isNameStart c then readName cs
    else if isNumberStart c then readNumber cs
    else if isMark c then some (.mark c, rest)
    else none

/-- the tokens of a text that has at most `count` of blanks, comments and tokens together -/
def tokensWithin : (count : Nat) → List Char → Option (List Token)
  | _, [] => some []
  | 0, _ => none
  | count + 1, '/' :: '/' :: cs => tokensWithin count (cs.dropWhile (· != '\n'))
  | count + 1, '/' :: '*' :: cs => (afterComment 0 cs).bind (tokensWithin count)
  | count + 1, c :: cs =>
    if isSpace c then tokensWithin count cs
    else do
      let (token, rest) ← readToken (c :: cs)
      let tokens ← tokensWithin count rest
      return token :: tokens

/-- the tokens of a text, if it consists of such -/
def tokens? (text : String) : Option (List Token) := tokensWithin text.length text.toList

end Playscript.Notation
