/-
The case of ASCII letters, character by character.

- `toLower_eq_or`: only the capitals of ASCII change when case is folded;
- `toLower_eq_iff`, `isBlank_toLower`: so whatever is no letter is the same before and after, blanks among it;
- `trimChars_foldCase`: and a text loses the same blanks at its ends in either case.
-/
import Playscript.Proofs.Text.Trimming
import Playscript.Text.Fold

namespace Playscript.Text

/-- only the capital letters of ASCII have another small form there -/
theorem toLower_eq_or (c : Char) : c.toLower = c ∨ ∃ i < 26, c = Char.ofNat (65 + i) := by
  by_cases hupper : c.val ≥ 'A'.val ∧ c.val ≤ 'Z'.val
  · have hfirst : 65 ≤ c.toNat := UInt32.le_iff_toNat_le.1 hupper.1
    have hlast : c.toNat ≤ 90 := UInt32.le_iff_toNat_le.1 hupper.2
    refine .inr ⟨c.toNat - 65, by omega, ?_⟩
    rw [show 65 + (c.toNat - 65) = c.toNat by omega, Char.ofNat_toNat]
  · exact .inl (dif_neg hupper)

theorem isAlpha_capitals : ∀ i < 26,
    (Char.ofNat (65 + i)).isAlpha = true ∧ (Char.ofNat (65 + i)).toLower.isAlpha = true := by decide

theorem toLower_eq_iff {c d : Char} (h : d.isAlpha = false) : c.toLower = d ↔ c = d := by
  rcases toLower_eq_or c with hsame | ⟨i, hi, rfl⟩
  · rw [hsame]
  · obtain ⟨hcapital, hsmall⟩ := isAlpha_capitals i hi
    refine iff_of_false (fun e => ?_) fun e => ?_
    · rw [e, h] at hsmall
      cases hsmall
    · rw [e, h] at hcapital
      cases hcapital

theorem isBlank_capitals : ∀ i < 26, isBlank (Char.ofNat (65 + i)).toLower = isBlank (Char.ofNat (65 + i)) := by
  decide

theorem isBlank_toLower (c : Char) : isBlank c.toLower = isBlank c := by
  rcases toLower_eq_or c with hsame | ⟨i, hi, rfl⟩
  · rw [hsame]
  · exact isBlank_capitals i hi

theorem trimChars_foldCase (cs : List Char) : trimChars (foldCase cs) = foldCase (trimChars cs) := by
  have blanks : isBlank ∘ Char.toLower = isBlank := funext isBlank_toLower
  simp only [trimChars, dropBlankBack, dropBlankFront, foldCase, List.dropWhile_map, ← List.map_reverse, blanks]

theorem sameFolded_iff {a b : List Char} : sameFolded a b = true ↔ foldCase a = foldCase b := beq_iff_eq

theorem foldCase_append (a b : List Char) : foldCase (a ++ b) = foldCase a ++ foldCase b := List.map_append

theorem foldCase_take {a b : List Char} (h : foldCase a = foldCase b) (n : Nat) :
    foldCase (a.take n) = foldCase (b.take n) := by
  unfold foldCase at h ⊢
  rw [List.map_take, List.map_take, h]

theorem foldCase_drop {a b : List Char} (h : foldCase a = foldCase b) (n : Nat) :
    foldCase (a.drop n) = foldCase (b.drop n) := by
  unfold foldCase at h ⊢
  rw [List.map_drop, List.map_drop, h]

end Playscript.Text
