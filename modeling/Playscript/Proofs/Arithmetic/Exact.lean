/-
Arithmetic is exact or refused.

- `Fits`: the integers that a word of 64 bits holds; all others are refused (`narrow_eq_none_iff`);
- `Exact`: an answer is the integer asked for if it fits, and an overflow if it does not; `exact_narrowed`;
- `Divided`: what quotient and remainder may be; the only quotient of words that does not fit is that of the least word
  by minus one (`fits_tdiv_iff`), and a remainder always fits (`fits_tmod`);
- `exact_cube`: where the square does not fit, the cube does not either;
- `risingProduct_eq`: a product of growing factors stops at the first one that does not fit exactly if the whole product
  does not fit;
- `arithmetic_exact`: every operation, over all words.
-/
import Playscript.Arithmetic
import Mathlib.Data.Nat.Factorial.Basic
import Mathlib.Tactic.Linarith
import Mathlib.Tactic.Ring

namespace Playscript

/-- whether a word of 64 bits holds the integer -/
def Fits (n : Int) : Prop := -2 ^ 63 ≤ n ∧ n < 2 ^ 63

theorem fits_toInt (w : Int64) : Fits w.toInt := ⟨w.le_toInt, w.toInt_lt⟩

theorem narrow_eq_none_iff {n : Int} : narrow n = none ↔ ¬ Fits n := by
  rw [narrow, Fits]
  split_ifs with h
  · simp only [false_iff]
    omega
  · simp only [true_iff]
    omega

/-- the answer is the integer if a word holds it, and an overflow if none does -/
inductive Exact (n : Int) : Except ArithmeticError Int64 → Prop where
  | fits {w : Int64} : w.toInt = n → Exact n (.ok w)
  | overflow : ¬ Fits n → Exact n (.error .overflow)

theorem exact_narrowed (n : Int) : Exact n (narrowed n) := by
  unfold narrowed
  split
  · rename_i w hw
    exact .fits (toInt_narrow hw)
  · rename_i hnone
    exact .overflow (narrow_eq_none_iff.1 hnone)

/-! ## Division -/

/-- the quotient and the remainder of two words: none by zero, none of the least word by minus one, and else the
quotient toward zero with the remainder that goes with it -/
inductive Divided (a b : Int64) : Except ArithmeticError Int64 → Except ArithmeticError Int64 → Prop where
  | byZero : b = 0 → Divided a b (.error .divisionByZero) (.error .divisionByZero)
  | overflow : a = Int64.minValue → b = -1 → Divided a b (.error .overflow) (.error .overflow)
  | exact {q r : Int64} : b ≠ 0 → ¬ (a = Int64.minValue ∧ b = -1) → a.toInt = q.toInt * b.toInt + r.toInt →
    r.toInt.natAbs < b.toInt.natAbs → (r = 0 ∨ r.toInt.sign = a.toInt.sign) → Divided a b (.ok q) (.ok r)

theorem toInt_eq_minValue_iff {a : Int64} : a.toInt = -2 ^ 63 ↔ a = Int64.minValue := by
  rw [← Int64.toInt_minValue, Int64.toInt_inj]

theorem toInt_eq_neg_one_iff {b : Int64} : b.toInt = -1 ↔ b = -1 := Int64.toInt_inj (y := -1)

theorem toInt_ne_zero {b : Int64} (h : b ≠ 0) : b.toInt ≠ 0 := fun hzero => h (Int64.toInt_inj.1 hzero)

/-- **Only the least word by minus one has a quotient that does not fit.** -/
theorem fits_tdiv_iff {a b : Int64} (hb : b ≠ 0) :
    Fits (a.toInt.tdiv b.toInt) ↔ ¬ (a = Int64.minValue ∧ b = -1) := by
  have hzero := toInt_ne_zero hb
  have bounds := fits_toInt a
  rw [← toInt_eq_minValue_iff, ← toInt_eq_neg_one_iff]
  by_cases hneg : b.toInt = -1
  · rw [hneg, Int.tdiv_neg, Int.tdiv_one]
    simp only [Fits, and_true] at bounds ⊢
    omega
  · refine iff_of_true ?_ fun h => hneg h.2
    by_cases hone : b.toInt = 1
    · rwa [hone, Int.tdiv_one]
    -- a divisor of at least two halves the dividend
    · have half : (a.toInt.tdiv b.toInt).natAbs ≤ a.toInt.natAbs / 2 := by
        rw [Int.natAbs_tdiv]
        exact Nat.div_le_div_left (by omega) (by decide)
      simp only [Fits] at bounds ⊢
      omega

theorem natAbs_tmod_lt {a b : Int} (hb : b ≠ 0) : (a.tmod b).natAbs < b.natAbs := by
  rw [Int.natAbs_tmod]
  exact Nat.mod_lt _ (by omega)

/-- a remainder is smaller than a divisor that fits -/
theorem fits_tmod {a b : Int64} (hb : b ≠ 0) : Fits (a.toInt.tmod b.toInt) := by
  have small := natAbs_tmod_lt (a := a.toInt) (toInt_ne_zero hb)
  have bounds := fits_toInt b
  simp only [Fits] at bounds ⊢
  omega

theorem tmod_eq_zero_or_sign (a b : Int) : a.tmod b = 0 ∨ (a.tmod b).sign = a.sign := by
  rw [← Int.sign_eq_zero_iff_zero, Int.sign_tmod]
  split_ifs
  · exact .inl rfl
  · exact .inr rfl

/-- **Quotient and remainder** are refused together, or else go together. -/
theorem divided (a b : Int64) : Divided a b (BinaryOp.div.apply a b) (BinaryOp.rem.apply a b) := by
  by_cases hb : b = 0
  · simp only [BinaryOp.apply, if_pos hb]
    exact .byZero hb
  · cases hq : narrow (a.toInt.tdiv b.toInt) with
    | none =>
      have least : a = Int64.minValue ∧ b = -1 := not_not.1 (mt (fits_tdiv_iff hb).2 (narrow_eq_none_iff.1 hq))
      simp only [BinaryOp.apply, if_neg hb, narrowed, hq, if_true]
      exact .overflow least.1 least.2
    | some q =>
      obtain ⟨r, hr⟩ : ∃ r, narrow (a.toInt.tmod b.toInt) = some r :=
        Option.ne_none_iff_exists'.1 fun hnone => narrow_eq_none_iff.1 hnone (fits_tmod hb)
      have quotient := toInt_narrow hq
      have remainder := toInt_narrow hr
      have notLeast : ¬ (a = Int64.minValue ∧ b = -1) := (fits_tdiv_iff hb).1 (quotient ▸ fits_toInt q)
      have together : a.toInt = q.toInt * b.toInt + r.toInt := by
        rw [quotient, remainder, Int.mul_comm, Int.mul_tdiv_add_tmod]
      have small : r.toInt.natAbs < b.toInt.natAbs := remainder ▸ natAbs_tmod_lt (toInt_ne_zero hb)
      have signed : r = 0 ∨ r.toInt.sign = a.toInt.sign := by
        rw [← Int64.toInt_inj, remainder]
        exact tmod_eq_zero_or_sign a.toInt b.toInt
      simp only [BinaryOp.apply, if_neg hb, narrowed, hq, hr, reduceCtorEq, if_false]
      exact .exact hb notLeast together small signed

-- the remainder of the least word by minus one is zero, and is refused with its quotient
example : BinaryOp.rem.apply Int64.minValue (-1) = .error .overflow := by decide

/-! ## Powers -/

theorem not_fits_cube {n : Int} (h : ¬ Fits (n * n)) : ¬ Fits (n ^ 3) := by
  have large : 2 ^ 63 ≤ n * n := by
    by_contra hsmall
    exact h ⟨le_trans (by decide) (mul_self_nonneg n), not_le.1 hsmall⟩
  have cube : n ^ 3 = n * n * n := by ring
  rintro ⟨hlow, hhigh⟩
  rcases le_or_gt 2 n with hn | hn
  · nlinarith
  · have hn : n ≤ -2 := by
      by_contra hmiddle
      nlinarith
    nlinarith

/-- **A square that does not fit is no loss**, since the cube does not fit then either. -/
theorem exact_cube (n : Int64) : Exact (n.toInt ^ 3) (UnaryOp.cube.apply n) := by
  cases hsquare : narrow (n.toInt * n.toInt) with
  | none =>
    simp only [UnaryOp.apply, hsquare]
    exact .overflow (not_fits_cube (narrow_eq_none_iff.1 hsquare))
  | some product =>
    have cube : product.toInt * n.toInt = n.toInt ^ 3 := by
      rw [toInt_narrow hsquare]
      ring
    simp only [UnaryOp.apply, hsquare, ← cube]
    exact exact_narrowed _

/-! ## Factorial -/

/-- **A product stops early exactly if it does not fit as a whole**: all factors are positive, so it never shrinks. -/
theorem risingProduct_eq (steps : Nat) {factor : Nat} (hfactor : 0 < factor) {acc : Int64} (hacc : 0 < acc.toInt) :
    risingProduct steps factor acc = narrow (acc.toInt * factor.ascFactorial steps) := by
  induction steps generalizing factor acc with
  | zero => rw [risingProduct, Nat.ascFactorial_zero, Nat.cast_one, mul_one, narrow_toInt]
  | succ steps ih =>
    have whole : acc.toInt * (factor.ascFactorial (steps + 1) : Nat) =
        acc.toInt * factor * ((factor + 1).ascFactorial steps : Nat) := by
      rw [mul_assoc, Nat.ascFactorial_succ, ← Nat.succ_ascFactorial, Nat.cast_mul]
    have grows : 0 < acc.toInt * factor := Int.mul_pos hacc (by omega)
    rw [risingProduct, whole]
    cases hnext : narrow (acc.toInt * factor) with
    | none =>
      have further : 1 ≤ (factor + 1).ascFactorial steps := Nat.ascFactorial_pos factor steps
      have large : acc.toInt * factor ≤ acc.toInt * factor * ((factor + 1).ascFactorial steps : Nat) :=
        le_mul_of_one_le_right grows.le (by exact_mod_cast further)
      refine (narrow_eq_none_iff.2 fun fits => narrow_eq_none_iff.1 hnext ⟨?_, ?_⟩).symm
      · exact le_trans (by decide) grows.le
      · exact lt_of_le_of_lt large fits.2
    | some next =>
      rw [Option.bind_some, ih (by omega) (toInt_narrow hnext ▸ grows), toInt_narrow hnext]

theorem exact_factorial {n : Int64} (h : 0 ≤ n) :
    Exact (n.toInt.toNat.factorial : Nat) (UnaryOp.factorial.apply n) := by
  have product : risingProduct (n.toInt.toNat - 1) 2 1 = narrow (n.toInt.toNat.factorial : Nat) := by
    have rising : Nat.factorial 1 * Nat.ascFactorial 2 (n.toInt.toNat - 1) = n.toInt.toNat.factorial := by
      rw [Nat.factorial_mul_ascFactorial]
      cases n.toInt.toNat with
      | zero => rfl
      | succ m => rw [Nat.add_sub_cancel, Nat.add_comm]
    rw [Nat.factorial_one, one_mul] at rising
    rw [risingProduct_eq _ (by decide) (by decide), rising, show (1 : Int64).toInt = 1 from rfl, one_mul]
  have answer := exact_narrowed (n.toInt.toNat.factorial : Nat)
  simpa only [UnaryOp.apply, integerFactorial, if_neg (Int64.not_lt.2 h), product, narrowed] using answer

/-- a root is refused as such exactly for a negative number -/
theorem integerRoot_eq_negativeRoot_iff {n : Int64} : integerRoot n = .error .negativeRoot ↔ n < 0 := by
  unfold integerRoot
  split_ifs with h
  · exact iff_of_true rfl h
  · refine iff_of_false (fun hroot => ?_) h
    split at hroot <;> cases hroot

/-- **Arithmetic is exact or refused.** A sum, a difference, a product, a square and a cube are the integers that they
should be, unless that integer does not fit in a word: then there is an overflow. Quotient and remainder are refused for
the divisor zero and for the least word by minus one, and otherwise belong together. A factorial is exact in the same
way for a number that is not negative and refused for a negative one, and a square root is refused as negative for a
negative number only. -/
theorem arithmetic_exact (a b n : Int64) :
    (Exact (a.toInt + b.toInt) (BinaryOp.add.apply a b) ∧ Exact (a.toInt - b.toInt) (BinaryOp.sub.apply a b) ∧
      Exact (a.toInt * b.toInt) (BinaryOp.mul.apply a b)) ∧
    Divided a b (BinaryOp.div.apply a b) (BinaryOp.rem.apply a b) ∧
    (Exact (n.toInt ^ 2) (UnaryOp.square.apply n) ∧ Exact (n.toInt ^ 3) (UnaryOp.cube.apply n)) ∧
    (n < 0 ∧ UnaryOp.factorial.apply n = .error .negativeFactorial ∨
      0 ≤ n ∧ Exact (n.toInt.toNat.factorial : Nat) (UnaryOp.factorial.apply n)) ∧
    (UnaryOp.squareRoot.apply n = .error .negativeRoot ↔ n < 0) := by
  have square : Exact (n.toInt ^ 2) (UnaryOp.square.apply n) := by
    rw [sq]
    exact exact_narrowed _
  have factorial : n < 0 ∧ UnaryOp.factorial.apply n = .error .negativeFactorial ∨
      0 ≤ n ∧ Exact (n.toInt.toNat.factorial : Nat) (UnaryOp.factorial.apply n) := by
    by_cases hn : n < 0
    · exact .inl ⟨hn, by simp only [UnaryOp.apply, integerFactorial, if_pos hn]⟩
    · have hn : 0 ≤ n := Int64.not_lt.1 hn
      exact .inr ⟨hn, exact_factorial hn⟩
  exact ⟨⟨exact_narrowed _, exact_narrowed _, exact_narrowed _⟩, divided a b, ⟨square, exact_cube n⟩, factorial,
    integerRoot_eq_negativeRoot_iff⟩

end Playscript
