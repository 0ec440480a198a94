/-
The square root is exact whatever it is guessed to be.

- `squareWithin_iff`: a square that does not fit in a word is larger than any word, so testing it is exact;
- `lowerRoot_eq`, `raiseRoot_eq`: the walk down stops at the root or at a guess below it, and the walk up at the root;
- `Correction.step`: both walks turn by turn, where a root that is no word is an overflow;
- `Correction.run_down`, `Correction.run_up`: what a run of turns does above the root and below it;
- `Correction.ne_overflow_of_settled`: a run that settles has not overflowed on the way;
- `settleRoot_exact`: from any guess that a word holds the walks end, in as many turns as the guess is off, without an
  overflow, at the root rounded down.
-/
import Playscript.Proofs.Arithmetic.Exact
import Mathlib.Data.Nat.Sqrt
import Mathlib.Logic.Function.Iterate

namespace Playscript

theorem narrow_eq_some_iff {n : Int} {w : Int64} : narrow n = some w ↔ w.toInt = n :=
  ⟨toInt_narrow, fun h => h ▸ narrow_toInt w⟩

/-- **Whether a square is within a word is decided by the integers**: a square that does not fit is too large. -/
theorem squareWithin_iff {n root : Int64} : squareWithin n root = true ↔ root.toInt * root.toInt ≤ n.toInt := by
  unfold squareWithin
  cases hsquare : narrow (root.toInt * root.toInt) with
  | some product => simp only [decide_eq_true_eq, Int64.le_iff_toInt_le, toInt_narrow hsquare]
  | none =>
    have large : ¬ Fits (root.toInt * root.toInt) := narrow_eq_none_iff.1 hsquare
    have nonneg : 0 ≤ root.toInt * root.toInt := mul_self_nonneg _
    have bound := n.toInt_lt
    simp only [Fits] at large
    simp only [Bool.false_eq_true, false_iff]
    omega

/-- one more than a word that is not the greatest is a word -/
theorem narrow_succ {k : Nat} (hk : k + 1 < 2 ^ 63) :
    narrow ((Int64.ofNat k).toInt + 1) = some (Int64.ofNat (k + 1)) := by
  rw [narrow_eq_some_iff, Int64.toInt_ofNat_of_lt hk, Int64.toInt_ofNat_of_lt (by omega)]
  rfl

theorem narrow_pred {k : Nat} (hk : k + 1 < 2 ^ 63) :
    narrow ((Int64.ofNat (k + 1)).toInt - 1) = some (Int64.ofNat k) := by
  rw [narrow_eq_some_iff, Int64.toInt_ofNat_of_lt hk, Int64.toInt_ofNat_of_lt (by omega)]
  omega

theorem raiseRoot_of_narrow {n root next : Int64} (h : narrow (root.toInt + 1) = some next) :
    raiseRoot n root = if squareWithin n next then raiseRoot n next else some root := by
  rw [raiseRoot]
  split
  · rename_i hnone
    rw [h] at hnone
    cases hnone
  · rename_i found hfound
    rw [h] at hfound
    cases hfound
    rfl

/-! ## The two walks -/

/-- the root of a number, rounded down -/
def floorRoot (n : Int64) : Nat := n.toInt.toNat.sqrt

theorem floorRoot_lt (n : Int64) : floorRoot n < 2 ^ 32 := by
  have bound := n.toInt_lt
  rw [floorRoot, Nat.sqrt_lt]
  omega

section Walks

variable {n : Int64} (hn : 0 ≤ n)
include hn

theorem squareWithin_ofNat {k : Nat} (hk : k < 2 ^ 63) :
    squareWithin n (Int64.ofNat k) = true ↔ k ≤ floorRoot n := by
  have nonneg : 0 ≤ n.toInt := Int64.le_iff_toInt_le.1 hn
  rw [squareWithin_iff, Int64.toInt_ofNat_of_lt hk, floorRoot, Nat.le_sqrt]
  omega

theorem squareWithin_above {k : Nat} (habove : floorRoot n < k) (hk : k < 2 ^ 63) :
    squareWithin n (Int64.ofNat k) = false := by
  rw [Bool.eq_false_iff, ne_eq, squareWithin_ofNat hn hk]
  exact Nat.not_le.2 habove

/-- the walk down stops at the root, or at once if the guess is not above it -/
theorem lowerRoot_eq {guess : Nat} (hguess : guess < 2 ^ 63) : lowerRoot n guess = min guess (floorRoot n) := by
  induction guess with
  | zero => rw [lowerRoot, Nat.zero_min]
  | succ guess ih =>
    have within := squareWithin_ofNat hn hguess
    rw [lowerRoot]
    by_cases hle : guess + 1 ≤ floorRoot n
    · rw [if_pos (within.2 hle), Nat.min_eq_left hle]
    · rw [if_neg (mt within.1 hle), ih (by omega)]
      omega

/-- the walk up goes on to the root -/
theorem raiseRoot_eq {k : Nat} (hk : k ≤ floorRoot n) :
    raiseRoot n (Int64.ofNat k) = some (Int64.ofNat (floorRoot n)) := by
  have small := floorRoot_lt n
  induction hd : floorRoot n - k generalizing k with
  | zero =>
    have last : k = floorRoot n := by omega
    have above : squareWithin n (Int64.ofNat (k + 1)) = false := squareWithin_above hn (by omega) (by omega)
    rw [raiseRoot_of_narrow (narrow_succ (by omega)), above, last]
    rfl
  | succ d ih =>
    have below : squareWithin n (Int64.ofNat (k + 1)) = true := (squareWithin_ofNat hn (by omega)).2 (by omega)
    rw [raiseRoot_of_narrow (narrow_succ (by omega)), if_pos below]
    exact ih (by omega) (by omega)

/-- the root that the walks settle on does not depend on the guess -/
theorem settleRoot_eq {guess : Nat} (hguess : guess < 2 ^ 63) :
    settleRoot n guess = some (Int64.ofNat (floorRoot n)) := by
  rw [settleRoot, lowerRoot_eq hn hguess]
  exact raiseRoot_eq hn (Nat.min_le_right _ _)

end Walks

/-! ## Turn by turn -/

/-- what has become of a guess: a root to be lowered or raised, the one settled on, or no word at all -/
inductive Correction where
  | lowering (root : Int64)
  | raising (root : Int64)
  | settled (root : Int64)
  | overflow
  deriving DecidableEq, Repr

namespace Correction

/-- one turn: down while the square is too large, then up while the square of the next root is not -/
def step (n : Int64) : Correction → Correction
  | .lowering root =>
    if 0 < root ∧ squareWithin n root = false then
      match narrow (root.toInt - 1) with
      | some lower => .lowering lower
      | none => .overflow
    else .raising root
  | .raising root =>
    match narrow (root.toInt + 1) with
    | some higher => if squareWithin n higher then .raising higher else .settled root
    | none => .overflow
  | .settled root => .settled root
  | .overflow => .overflow

/-- upwards, the next root is tried first -/
theorem step_raising {n root higher : Int64} (h : narrow (root.toInt + 1) = some higher) :
    step n (.raising root) = if squareWithin n higher then .raising higher else .settled root := by
  simp only [step, h]

/-- **A run that settles has not overflowed on the way**, and does not overflow later. -/
theorem ne_overflow_of_settled {n root : Int64} {start : Correction} {turns : Nat}
    (h : (step n)^[turns] start = .settled root) (k : Nat) : (step n)^[k] start ≠ .overflow := by
  intro hover
  have stays : ∀ d, (step n)^[d] .overflow = .overflow := fun d => Function.iterate_fixed rfl d
  have settled : ∀ d, (step n)^[d] (.settled root) = .settled root := fun d => Function.iterate_fixed rfl d
  have both : (step n)^[turns + k] start = .overflow := by rw [Function.iterate_add_apply, hover, stays]
  rw [Nat.add_comm, Function.iterate_add_apply, h, settled] at both
  cases both

section Turns

variable {n : Int64} (hn : 0 ≤ n)
include hn

theorem step_down {k : Nat} (hk : floorRoot n ≤ k) (hword : k + 1 < 2 ^ 63) :
    step n (.lowering (Int64.ofNat (k + 1))) = .lowering (Int64.ofNat k) := by
  have above : squareWithin n (Int64.ofNat (k + 1)) = false := squareWithin_above hn (by omega) hword
  have positive : 0 < Int64.ofNat (k + 1) := by
    rw [Int64.lt_iff_toInt_lt, Int64.toInt_ofNat_of_lt hword, Int64.toInt_zero]
    omega
  rw [step, if_pos ⟨positive, above⟩, narrow_pred hword]

theorem step_turn {k : Nat} (hk : k ≤ floorRoot n) :
    step n (.lowering (Int64.ofNat k)) = .raising (Int64.ofNat k) := by
  have small := floorRoot_lt n
  have within : squareWithin n (Int64.ofNat k) = true := (squareWithin_ofNat hn (by omega)).2 hk
  exact if_neg (by simp [within])

theorem step_up {k : Nat} (hk : k < floorRoot n) :
    step n (.raising (Int64.ofNat k)) = .raising (Int64.ofNat (k + 1)) := by
  have small := floorRoot_lt n
  have within : squareWithin n (Int64.ofNat (k + 1)) = true := (squareWithin_ofNat hn (by omega)).2 hk
  rw [step_raising (narrow_succ (by omega)), if_pos within]

theorem step_settle : step n (.raising (Int64.ofNat (floorRoot n))) = .settled (Int64.ofNat (floorRoot n)) := by
  have small := floorRoot_lt n
  have above : squareWithin n (Int64.ofNat (floorRoot n + 1)) = false :=
    squareWithin_above hn (Nat.lt_succ_self _) (by omega)
  rw [step_raising (narrow_succ (by omega)), above]
  rfl

theorem run_down (d : Nat) (hword : floorRoot n + d < 2 ^ 63) :
    (step n)^[d] (.lowering (Int64.ofNat (floorRoot n + d))) = .lowering (Int64.ofNat (floorRoot n)) := by
  induction d with
  | zero => rfl
  | succ d ih =>
    rw [Function.iterate_succ_apply, ← Nat.add_assoc, step_down hn (by omega) (by omega)]
    exact ih (by omega)

theorem run_up (d : Nat) {k : Nat} (hk : k + d = floorRoot n) :
    (step n)^[d] (.raising (Int64.ofNat k)) = .raising (Int64.ofNat (floorRoot n)) := by
  induction d generalizing k with
  | zero =>
    rw [← hk]
    rfl
  | succ d ih =>
    rw [Function.iterate_succ_apply, step_up hn (by omega)]
    exact ih (by omega)

/-- **A guess is corrected in as many turns as it is off**, one to turn around and one to settle. -/
theorem run_settles {guess d : Nat} (hguess : guess < 2 ^ 63)
    (hd : guess = floorRoot n + d ∨ guess + d = floorRoot n) :
    (step n)^[d + 2] (.lowering (Int64.ofNat guess)) = .settled (Int64.ofNat (floorRoot n)) := by
  rcases hd with rfl | hd
  · calc (step n)^[d + 2] (.lowering (Int64.ofNat (floorRoot n + d)))
        = (step n)^[2] ((step n)^[d] (.lowering (Int64.ofNat (floorRoot n + d)))) := by
          rw [Nat.add_comm, Function.iterate_add_apply]
      _ = step n (step n (.lowering (Int64.ofNat (floorRoot n)))) := by rw [run_down hn d hguess]; rfl
      _ = .settled (Int64.ofNat (floorRoot n)) := by rw [step_turn hn le_rfl, step_settle hn]
  · calc (step n)^[d + 2] (.lowering (Int64.ofNat guess))
        = step n ((step n)^[d] (step n (.lowering (Int64.ofNat guess)))) := by
          rw [Function.iterate_succ_apply', Function.iterate_succ_apply]
      _ = step n (.raising (Int64.ofNat (floorRoot n))) := by rw [step_turn hn (by omega), run_up hn d hd]
      _ = .settled (Int64.ofNat (floorRoot n)) := step_settle hn

end Turns

end Correction

/-! ## The root -/

/-- **The square root is exact whatever it is guessed to be.** From any guess that a word holds, both walks end, in as
many turns as the guess is off and two more; no turn overflows, not even where the root after the last is tried. They
end at the root rounded down, which is the answer. -/
theorem settleRoot_exact {n : Int64} (hn : 0 ≤ n) {guess : Nat} (hguess : guess < 2 ^ 63) :
    ∃ root : Int64, settleRoot n guess = some root ∧ integerRoot n = .ok root ∧
      0 ≤ root.toInt ∧ root.toInt * root.toInt ≤ n.toInt ∧ n.toInt < (root.toInt + 1) * (root.toInt + 1) ∧
      (Correction.step n)^[(guess - root.toInt).natAbs + 2] (.lowering (Int64.ofNat guess)) = .settled root ∧
      ∀ turns, (Correction.step n)^[turns] (.lowering (Int64.ofNat guess)) ≠ .overflow := by
  have small := floorRoot_lt n
  have nonneg : 0 ≤ n.toInt := Int64.le_iff_toInt_le.1 hn
  have value : (Int64.ofNat (floorRoot n)).toInt = floorRoot n := Int64.toInt_ofNat_of_lt (by omega)
  have below : floorRoot n * floorRoot n ≤ n.toInt.toNat := Nat.sqrt_le _
  have above : n.toInt.toNat < (floorRoot n + 1) * (floorRoot n + 1) := Nat.lt_succ_sqrt _
  have guessed : guessRoot n.toInt.toNat < 2 ^ 63 :=
    Nat.lt_of_le_of_lt (Nat.min_le_right _ _) (by decide)
  have answer : integerRoot n = .ok (Int64.ofNat (floorRoot n)) := by
    rw [integerRoot, if_neg (Int64.not_lt.2 hn), settleRoot_eq hn guessed]
  have settles : (Correction.step n)^[((guess : Int) - floorRoot n).natAbs + 2] (.lowering (Int64.ofNat guess)) =
      .settled (Int64.ofNat (floorRoot n)) := Correction.run_settles hn hguess (by omega)
  refine ⟨Int64.ofNat (floorRoot n), settleRoot_eq hn hguess, answer, ?_, ?_, ?_, ?_,
    Correction.ne_overflow_of_settled settles⟩
  · rw [value]
    omega
  · rw [value]
    omega
  · rw [value]
    exact_mod_cast (show n.toInt < ((floorRoot n + 1) * (floorRoot n + 1) : Nat) by omega)
  · rw [value]
    exact settles

/-- the root of the greatest word, guessed too high as a power of two and too low as zero; its successor's square does
not fit -/
theorem settleRoot_exact_greatest :
    (0 : Int64) ≤ Int64.maxValue ∧ 2 ^ 32 < 2 ^ 63 ∧ settleRoot Int64.maxValue (2 ^ 32) = some 3037000499 ∧
      settleRoot Int64.maxValue 0 = some 3037000499 := by
  have hn : (0 : Int64) ≤ Int64.maxValue := by decide
  have greatest : Int64.maxValue.toInt = 9223372036854775807 := by decide
  have root_eq : ∀ root : Int64, 0 ≤ root.toInt → root.toInt * root.toInt ≤ Int64.maxValue.toInt →
      Int64.maxValue.toInt < (root.toInt + 1) * (root.toInt + 1) → root = 3037000499 := by
    intro root hroot hbelow habove
    rw [greatest] at hbelow habove
    have low : 3037000499 ≤ root.toInt := by
      by_contra h
      nlinarith
    have high : root.toInt ≤ 3037000499 := by
      by_contra h
      nlinarith
    exact Int64.toInt_inj.1 (le_antisymm high low)
  obtain ⟨root, hsettles, -, hroot, hbelow, habove, -⟩ := @settleRoot_exact _ hn (2 ^ 32) (by decide)
  obtain ⟨root', hsettles', -, hroot', hbelow', habove', -⟩ := @settleRoot_exact _ hn 0 (by decide)
  rw [root_eq root hroot hbelow habove] at hsettles
  rw [root_eq root' hroot' hbelow' habove'] at hsettles'
  exact ⟨hn, by decide, hsettles, hsettles'⟩

end Playscript
