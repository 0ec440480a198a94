/-
Arithmetic on signed integers of 64 bits: a step gives the exact result or says why it has none.

Every operation is computed in the integers and then narrowed, so a result is exact whenever there is one. Division
truncates toward zero and the remainder takes the sign of the dividend. The square root rounds down: whatever guess it
starts from, it first walks down to a root whose square fits under the operand and then up to the largest such root.
-/
import Playscript.Value

namespace Playscript

/-- why an arithmetic step has no result -/
inductive ArithmeticError where
  | divisionByZero
  | overflow
  | negativeRoot
  | negativeFactorial
  deriving DecidableEq, Repr

def ArithmeticError.message : ArithmeticError → String
  | .divisionByZero => "division by zero"
  | .overflow => "arithmetic overflow"
  | .negativeRoot => "square root of a negative number"
  | .negativeFactorial => "factorial of a negative number"

/-- an integer as a word of 64 bits, if it fits -/
def narrow (n : Int) : Option Int64 :=
  if -9223372036854775808 ≤ n ∧ n ≤ 9223372036854775807 then some (Int64.ofInt n) else none

theorem toInt_narrow {n : Int} {w : Int64} (h : narrow n = some w) : w.toInt = n := by
  unfold narrow at h
  split at h
  · cases h
    exact Int64.toInt_ofInt_of_le (by omega) (by omega)
  · cases h

theorem narrow_toInt (w : Int64) : narrow w.toInt = some w := by
  unfold narrow
  rw [if_pos ⟨w.le_toInt, Int.le_of_lt_add_one w.toInt_lt⟩, Int64.ofInt_toInt]

def narrowed (n : Int) : Except ArithmeticError Int64 :=
  match narrow n with
  | some w => .ok w
  | none => .error .overflow

def BinaryOp.apply (op : BinaryOp) (a b : Int64) : Except ArithmeticError Int64 :=
  match op with
  | .add => narrowed (a.toInt + b.toInt)
  | .sub => narrowed (a.toInt - b.toInt)
  | .mul => narrowed (a.toInt * b.toInt)
  | .div => if b = 0 then .error .divisionByZero else narrowed (a.toInt.tdiv b.toInt)
  | .rem =>
    if b = 0 then .error .divisionByZero
    else if narrow (a.toInt.tdiv b.toInt) = none then .error .overflow
    else narrowed (a.toInt.tmod b.toInt)

/-! ## Square root -/

/-- whether the square of `root` fits in a word and is at most `n` -/
def squareWithin (n root : Int64) : Bool :=
  match narrow (root.toInt * root.toInt) with
  | some product => product ≤ n
  | none => false

/-- the largest root from `root` down to zero whose square is at most `n` -/
def lowerRoot (n : Int64) : Nat → Nat
  | 0 => 0
  | root + 1 => if squareWithin n (Int64.ofNat (root + 1)) then root + 1 else lowerRoot n root

/-- the last root from `root` up before one whose square exceeds `n`; nothing when the next root does not fit -/
def raiseRoot (n root : Int64) : Option Int64 :=
  match _fits : narrow (root.toInt + 1) with
  | none => none
  | some next => if squareWithin n next then raiseRoot n next else some root
termination_by (9223372036854775808 - root.toInt).toNat
decreasing_by
  have := toInt_narrow _fits
  have := root.toInt_lt
  omega

/-- the square root of `n` settled from a guess, both walks included -/
def settleRoot (n : Int64) (guess : Nat) : Option Int64 :=
  raiseRoot n (Int64.ofNat (lowerRoot n guess))

/-- some rounds of averaging a root with its quotient -/
def averageRoot (n : Nat) : Nat → Nat → Nat
  | 0, root => root
  | rounds + 1, root => averageRoot n rounds ((root + n / root) / 2)

/-- a guess within a step or two of the root -/
def guessRoot (n : Nat) : Nat :=
  min (averageRoot n 6 (1 <<< (n.log2 / 2 + 1))) UInt32.size

def integerRoot (n : Int64) : Except ArithmeticError Int64 :=
  if n < 0 then .error .negativeRoot
  else match settleRoot n (guessRoot n.toInt.toNat) with
    | some root => .ok root
    | none => .error .overflow

/-! ## Factorial -/

/-- `acc` times the `steps` factors from `factor` on, as long as each product fits -/
def risingProduct : (steps factor : Nat) → (acc : Int64) → Option Int64
  | 0, _, acc => some acc
  | steps + 1, factor, acc => (narrow (acc.toInt * factor)).bind (risingProduct steps (factor + 1))

def integerFactorial (n : Int64) : Except ArithmeticError Int64 :=
  if n < 0 then .error .negativeFactorial
  else match risingProduct (n.toInt.toNat - 1) 2 1 with
    | some product => .ok product
    | none => .error .overflow

def UnaryOp.apply (op : UnaryOp) (n : Int64) : Except ArithmeticError Int64 :=
  match op with
  | .square => narrowed (n.toInt * n.toInt)
  | .cube =>
    match narrow (n.toInt * n.toInt) with
    | some product => narrowed (product.toInt * n.toInt)
    | none => .error .overflow
  | .squareRoot => integerRoot n
  | .factorial => integerFactorial n

/-! ## Comparison -/

inductive Relation where
  | equal
  | greater
  | less
  deriving DecidableEq, Repr

/-- whether the first number stands in this relation to the second -/
def Relation.holds (relation : Relation) (a b : Int64) : Bool :=
  match relation with
  | .equal => a == b
  | .greater => b < a
  | .less => a < b

end Playscript
