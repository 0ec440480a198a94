/-
Small letters are small for good: what has been made small once is not changed by making it small again.

- `Small`: a character that is its own small form;
- `landings_apart`: the letters that capitals lead to are no capitals themselves. The table gives both as evenly spaced
  runs, so it is checked run against run (`CaseRun.apart`) and not letter by letter;
- `small_of_mem_smallForm`: so a small form is made of small characters;
- `lowercase_lowercase`: and so is a text in small letters.
-/
import Playscript.Proofs.Text.Lowercase

namespace Playscript

namespace Text

/-! ## Runs of letters -/

namespace CaseRun

/-- where the letters of a run lead -/
def landing (run : CaseRun) : CaseRun :=
  ⟨(run.first + run.shift).toNat, (run.last + run.shift).toNat, run.stride, -run.shift⟩

/-- two runs share no letter: one ends before the other begins, or the other has every second letter and all of the first
fall in between -/
def apart (run other : CaseRun) : Bool :=
  run.last.blt other.first || other.last.blt run.first ||
    ((run.first == run.last || run.stride == 2) && other.stride == 2 && (run.first + other.first) % 2 == 1)

theorem covers_iff {run : CaseRun} {n : Nat} :
    run.covers n = true ↔ run.first ≤ n ∧ n ≤ run.last ∧ (n - run.first) % run.stride = 0 := by
  simp [covers, and_assoc]

theorem not_covers_of_apart {run other : CaseRun} (h : run.apart other = true) {n : Nat} (hn : run.covers n = true) :
    other.covers n = false := by
  rw [← Bool.not_eq_true, covers_iff]
  obtain ⟨hfirst, hlast, hstride⟩ := covers_iff.1 hn
  rintro ⟨hfirst', hlast', hstride'⟩
  simp only [apart, Bool.or_eq_true, Bool.and_eq_true, Nat.blt_eq, beq_iff_eq] at h
  rcases h with (h | h) | ⟨⟨hrun, htwo⟩, hodd⟩
  · omega
  · omega
  · rw [htwo] at hstride'
    rcases hrun with hone | hrun
    · omega
    · rw [hrun] at hstride
      omega

theorem landing_covers {run : CaseRun} (hpos : 0 < run.landing.first) {n : Nat} (hn : run.covers n = true) :
    run.landing.covers (n + run.shift).toNat = true := by
  obtain ⟨hfirst, hlast, hstride⟩ := covers_iff.1 hn
  simp only [landing] at hpos
  have hshift : (n + run.shift).toNat - (run.first + run.shift).toNat = n - run.first := by omega
  refine covers_iff.2 ⟨?_, ?_, ?_⟩
  · simp only [landing]
    omega
  · simp only [landing]
    omega
  · simp only [landing, hshift, hstride]

end CaseRun

theorem landings_apart :
    ((smallLetterRuns.map CaseRun.landing).all fun run => smallLetterRuns.all run.apart) = true := by
  decide +kernel

/-- whatever capitals lead to comes after the capitals of ASCII -/
theorem landings_beyond : ∀ run ∈ smallLetterRuns, 90 < run.landing.first := by decide +kernel

theorem landings_unlisted : ∀ run ∈ smallLetterRuns, ∀ entry ∈ smallLetterSequences,
    run.landing.covers entry.1 = false := by decide +kernel

/-! ## Characters -/

/-- a character that is its own small form -/
def Small (c : Char) : Prop := smallForm c = [c]

instance (c : Char) : Decidable (Small c) := inferInstanceAs (Decidable (smallForm c = [c]))

theorem Small.ne_sigma {c : Char} (h : Small c) : c ≠ 'Σ' := by
  rintro rfl
  exact absurd h (by decide)

/-- what comes after the capitals of ASCII and is not in the table is small -/
theorem small_of_uncovered {c : Char} (hcapital : 90 < c.toNat) (hsequence : smallLetterSequences.lookup c.toNat = none)
    (hrun : ∀ run ∈ smallLetterRuns, run.covers c.toNat = false) : Small c := by
  have lower : c.toLower = c := by
    rcases toLower_eq_or c with hsmall | ⟨i, hi, rfl⟩
    · exact hsmall
    · have code : ∀ i < 26, (Char.ofNat (65 + i)).toNat ≤ 90 := by decide
      exact absurd (code i hi) (Nat.not_le.2 hcapital)
  have stays : shiftCase smallLetterRuns c = c := by
    rw [shiftCase, List.find?_eq_none.2 fun run h => by simp [hrun run h]]
  simp only [Small, smallForm, hsequence, lower, stays, ite_self]

/-- **No capital leads to another one.** -/
theorem small_of_covered {c : Char} {run : CaseRun} (hrun : run ∈ smallLetterRuns)
    (hcovers : run.covers c.toNat = true) : Small (Char.ofNat (c.toNat + run.shift).toNat) := by
  have beyond := landings_beyond run hrun
  have lands := CaseRun.landing_covers (by omega) hcovers
  by_cases hzero : (Char.ofNat (c.toNat + run.shift).toNat).toNat = 0
  · have nul : Char.ofNat (c.toNat + run.shift).toNat = Char.ofNat 0 := by rw [← hzero, Char.ofNat_toNat]
    rw [nul]
    decide
  have code := toNat_ofNat_eq hzero
  apply small_of_uncovered
  all_goals rw [code]
  · exact Nat.lt_of_lt_of_le beyond (CaseRun.covers_iff.1 lands).1
  · rw [List.lookup_eq_none_iff]
    intro entry hentry
    have missed := landings_unlisted run hrun entry hentry
    rw [bne_iff_ne]
    intro h
    rw [← h, lands] at missed
    cases missed
  · intro other hother
    have apart := List.all_eq_true.1 landings_apart run.landing (List.mem_map_of_mem hrun)
    exact CaseRun.not_covers_of_apart (List.all_eq_true.1 apart other hother) lands

theorem small_shiftCase (c : Char) (hform : smallForm c = [shiftCase smallLetterRuns c]) :
    Small (shiftCase smallLetterRuns c) := by
  cases hfound : smallLetterRuns.find? (·.covers c.toNat) with
  | none =>
    have stays : shiftCase smallLetterRuns c = c := by rw [shiftCase, hfound]
    rw [stays] at hform ⊢
    exact hform
  | some run =>
    have covers := List.find?_some hfound
    rw [shiftCase, hfound]
    exact small_of_covered (List.mem_of_find?_eq_some hfound) covers

theorem small_of_mem_smallForm {c d : Char} (h : d ∈ smallForm c) : Small d := by
  cases hascii : isAscii c with
  | true =>
    have form : smallForm c = [c.toLower] := by rw [smallForm, if_pos hascii]
    rw [form] at h
    rw [List.mem_singleton.1 h, Small, (smallForm_toLower c).1, form]
  | false =>
    cases hcodes : smallLetterSequences.lookup c.toNat with
    | none =>
      have form : smallForm c = [shiftCase smallLetterRuns c] := by simp [smallForm, hascii, hcodes]
      rw [form] at h
      rw [List.mem_singleton.1 h]
      exact small_shiftCase c form
    | some codes =>
      have small : ∀ entry ∈ smallLetterSequences, ∀ code ∈ entry.2, Small (Char.ofNat code) := by decide
      have form : smallForm c = codes.map Char.ofNat := by simp [smallForm, hascii, hcodes]
      rw [form] at h
      obtain ⟨before, after, happend, -⟩ := List.lookup_eq_some_iff.1 hcodes
      have hmem : (c.toNat, codes) ∈ smallLetterSequences := by simp [happend]
      obtain ⟨code, hcode, rfl⟩ := List.mem_map.1 h
      exact small _ hmem code hcode

/-! ## Texts -/

theorem small_of_mem_lowercaseFrom {before cs : List Char} {d : Char} (h : d ∈ lowercaseFrom before cs) : Small d := by
  induction cs generalizing before with
  | nil => cases h
  | cons c cs ih =>
    rw [lowercaseFrom, List.mem_append] at h
    rcases h with h | h
    · split at h
      · rw [List.mem_singleton.1 h, smallSigma]
        split <;> decide
      · exact small_of_mem_smallForm h
    · exact ih h

theorem lowercaseFrom_of_small {cs : List Char} (h : ∀ c ∈ cs, Small c) (before : List Char) :
    lowercaseFrom before cs = cs := by
  induction cs generalizing before with
  | nil => rfl
  | cons c cs ih =>
    have hc := h c List.mem_cons_self
    have form : smallForm c = [c] := hc
    rw [lowercaseFrom, if_neg hc.ne_sigma, form, ih fun d hd => h d (List.mem_cons_of_mem c hd), List.singleton_append]

/-- **Small letters are small for good.** -/
theorem lowercase_lowercase (s : String) : lowercase (lowercase s) = lowercase s := by
  rw [lowercase, lowercase, String.toList_ofList, lowercaseFrom_of_small fun _ h => small_of_mem_lowercaseFrom h]

end Text

/-- **Small letters mean the same.** -/
theorem Lexicon.classify_lowercase (lexicon : Lexicon) (word : String) :
    lexicon.classify (Text.lowercase word) = lexicon.classify word := by
  rw [classify, classify, Text.lowercase_lowercase]

end Playscript
