/-
Reading decimal integers of 64 bits: one optional sign, then ASCII digits, and nothing else.
-/

namespace Playscript.Text

/-- the value of a row of ASCII digits, continuing from `acc` -/
def digitsFrom (acc : Nat) : List Char → Option Nat
  | [] => some acc
  | c :: cs => if c.isDigit then digitsFrom (acc * 10 + (c.toNat - '0'.toNat)) cs else none

/-- a row of at least one digit -/
def readNatural : List Char → Option Nat
  | [] => none
  | cs => digitsFrom 0 cs

/-- a signed row of digits, of any size -/
def readSigned : List Char → Option Int
  | '-' :: cs => (readNatural cs).map fun n => -(n : Int)
  | '+' :: cs => (readNatural cs).map fun n => (n : Int)
  | cs => (readNatural cs).map fun n => (n : Int)

end Playscript.Text
