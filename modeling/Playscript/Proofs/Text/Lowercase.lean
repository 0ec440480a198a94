/-
Small letters leave the words of a text apart.

- `smallForm_of_blank`, `Unreached`: a blank is its own small form, and no other character has a blank in its small form;
- `lowercaseFrom_append_blank`: a blank ends every word, so what stands before it and after it is made small separately;
- `splitBlank_lowercaseFrom`: the words of a text in small letters are the words of the text, each in small letters;
- `lowercase_congr`: texts that differ in the case of ASCII letters only agree in small letters;
- `identifierFor_congr`: and names that agree in small letters have the same identifier.
-/
import Playscript.Cast
import Playscript.Proofs.Text.Eating
import Playscript.Proofs.Text.Folding

namespace Playscript

namespace Text

/-! ## Single characters -/

/-- the code points of all blank characters -/
def blankCodes : List Nat := [
  9, 10, 11, 12, 13, 32, 0x85, 0xa0, 0x1680, 0x2000, 0x2001, 0x2002, 0x2003, 0x2004, 0x2005, 0x2006, 0x2007, 0x2008,
  0x2009, 0x200a, 0x2028, 0x2029, 0x202f, 0x205f, 0x3000]

theorem toNat_mem_blankCodes {c : Char} (h : isBlank c = true) : c.toNat ∈ blankCodes := by
  simp only [blankCodes, List.mem_cons, List.not_mem_nil, or_false]
  unfold isBlank at h
  split at h
  · rcases Bool.or_eq_true_iff.1 h with h | h
    · have hspace : c = ' ' := by simpa using h
      subst hspace
      decide
    · have hrange : 9 ≤ c.toNat ∧ c.toNat ≤ 13 := by simpa using h
      omega
  · simp only [blankRanges, CodeRanges.has, List.any_cons, List.any_nil, Bool.or_false, Bool.or_eq_true,
      Bool.and_eq_true, decide_eq_true_eq] at h
    omega

theorem blankCodes_caseless : ∀ code ∈ blankCodes, smallForm (Char.ofNat code) = [Char.ofNat code] ∧
    caseIgnorableRanges.has (Char.ofNat code) = false ∧ casedRanges.has (Char.ofNat code) = false ∧
    Char.ofNat code ≠ 'Σ' := by decide +kernel

/-- **A blank has no case** and ends whatever a capital sigma looks at. -/
theorem smallForm_of_blank {c : Char} (h : isBlank c = true) : smallForm c = [c] ∧
    caseIgnorableRanges.has c = false ∧ casedRanges.has c = false ∧ c ≠ 'Σ' := by
  have caseless := blankCodes_caseless c.toNat (toNat_mem_blankCodes h)
  rwa [Char.ofNat_toNat] at caseless

theorem isBlank_of_mem_blankCodes {c : Char} (h : c.toNat ∈ blankCodes) : isBlank c = true := by
  have blank : ∀ code ∈ blankCodes, isBlank (Char.ofNat code) = true := by decide
  have hblank := blank c.toNat h
  rwa [Char.ofNat_toNat] at hblank

/-- characters, by their code points, to which only they themselves lead when letters are made small -/
structure Unreached (codes : List Nat) : Prop where
  nonzero : 0 ∉ codes
  ascii : ∀ code < 0x80, (Char.ofNat code).toLower.toNat ∈ codes → code ∈ codes
  sequences : ∀ entry ∈ smallLetterSequences, ∀ code ∈ entry.2, (Char.ofNat code).toNat ∉ codes
  runs : ∀ run ∈ smallLetterRuns, ∀ code ∈ codes, run.covers ((code : Int) - run.shift).toNat = false
  sigmas : 'σ'.toNat ∉ codes ∧ 'ς'.toNat ∉ codes

theorem unreached_blankCodes : Unreached blankCodes := by
  constructor <;> decide +kernel

theorem toNat_ofNat_eq {n : Nat} (h : (Char.ofNat n).toNat ≠ 0) : (Char.ofNat n).toNat = n := by
  by_cases hvalid : n.isValidChar
  · exact congrArg Char.toNat (dif_pos hvalid)
  · exact absurd (congrArg Char.toNat (dif_neg hvalid)) h

section Unreached

variable {codes : List Nat} (unreached : Unreached codes)
include unreached

theorem Unreached.of_shiftCase {c : Char} (h : (shiftCase smallLetterRuns c).toNat ∈ codes) : c.toNat ∈ codes := by
  have nonzero : ∀ {n}, n ∈ codes → n ≠ 0 := fun hn hzero => unreached.nonzero (hzero ▸ hn)
  unfold shiftCase at h
  split at h
  · rename_i run hrun
    have hcovers := List.find?_some hrun
    have htarget := toNat_ofNat_eq (nonzero h)
    rw [htarget] at h
    have hmiss := unreached.runs run (List.mem_of_find?_eq_some hrun) _ h
    have hpos := nonzero h
    have hback : (((c.toNat + run.shift).toNat : Nat) : Int) - run.shift = c.toNat := by omega
    rw [hback, Int.toNat_natCast] at hmiss
    exact absurd hcovers (by simp [hmiss])
  · exact h

theorem Unreached.of_smallForm {c d : Char} (hd : d ∈ smallForm c) (h : d.toNat ∈ codes) : c.toNat ∈ codes := by
  unfold smallForm at hd
  split at hd
  · rename_i hascii
    have hlower := unreached.ascii c.toNat (by simpa [isAscii] using hascii)
    rw [Char.ofNat_toNat] at hlower
    exact hlower (List.mem_singleton.1 hd ▸ h)
  · split at hd
    · rename_i entry hentry
      obtain ⟨before, after, happend, -⟩ := List.lookup_eq_some_iff.1 hentry
      have hmem : (c.toNat, entry) ∈ smallLetterSequences := by simp [happend]
      obtain ⟨code, hcode, rfl⟩ := List.mem_map.1 hd
      exact absurd h (unreached.sequences _ hmem code hcode)
    · exact unreached.of_shiftCase (List.mem_singleton.1 hd ▸ h)

/-- **What is made small has such a character where it has it already.** -/
theorem Unreached.of_lowercaseFrom {before cs : List Char} {d : Char} (hd : d ∈ lowercaseFrom before cs)
    (h : d.toNat ∈ codes) : ∃ c ∈ cs, c.toNat ∈ codes := by
  induction cs generalizing before with
  | nil => cases hd
  | cons c cs ih =>
    rw [lowercaseFrom, List.mem_append] at hd
    rcases hd with hd | hd
    · split at hd
      · rw [List.mem_singleton.1 hd, smallSigma] at h
        split at h
        · exact absurd h unreached.sigmas.2
        · exact absurd h unreached.sigmas.1
      · exact ⟨c, List.mem_cons_self, unreached.of_smallForm hd h⟩
    · obtain ⟨e, he, hcode⟩ := ih hd
      exact ⟨e, List.mem_cons_of_mem c he, hcode⟩

end Unreached

theorem smallForm_ne_nil (c : Char) : smallForm c ≠ [] := by
  have sequences : ∀ entry ∈ smallLetterSequences, entry.2 ≠ [] := by decide
  unfold smallForm
  split
  · exact List.cons_ne_nil _ _
  · split
    · rename_i entry hentry
      obtain ⟨before, after, happend, -⟩ := List.lookup_eq_some_iff.1 hentry
      have hmem : (c.toNat, entry) ∈ smallLetterSequences := by simp [happend]
      simpa using sequences _ hmem
    · exact List.cons_ne_nil _ _

/-! ## Texts -/

/-- what lies beyond a blank cannot be reached -/
theorem reachesCased_append_blank (cs : List Char) {b : Char} (hb : isBlank b = true) (rest : List Char) :
    reachesCased (cs ++ b :: rest) = reachesCased cs := by
  obtain ⟨-, hignorable, hcased, -⟩ := smallForm_of_blank hb
  unfold reachesCased
  induction cs with
  | nil => simp [hignorable, hcased]
  | cons c cs ih => cases hc : caseIgnorableRanges.has c <;> simp [hc, ih]

theorem lowercaseFrom_before_blank (cs before : List Char) {b : Char} (hb : isBlank b = true) (rest : List Char) :
    lowercaseFrom (before ++ b :: rest) cs = lowercaseFrom before cs := by
  induction cs generalizing before with
  | nil => rfl
  | cons c cs ih =>
    rw [lowercaseFrom, lowercaseFrom, smallSigma, smallSigma, reachesCased_append_blank before hb, ← List.cons_append,
      ih]

/-- **A blank keeps what stands before it from what comes after**, also when both are made small. -/
theorem lowercaseFrom_append_blank (cs before : List Char) {b : Char} (hb : isBlank b = true) (rest : List Char) :
    lowercaseFrom before (cs ++ b :: rest) = lowercaseFrom before cs ++ b :: lowercaseFrom [] rest := by
  obtain ⟨hsmall, -, -, hsigma⟩ := smallForm_of_blank hb
  induction cs generalizing before with
  | nil =>
    have hfresh := lowercaseFrom_before_blank rest [] hb before
    simpa [lowercaseFrom, hsigma, hsmall] using hfresh
  | cons c cs ih =>
    rw [List.cons_append, lowercaseFrom, lowercaseFrom, smallSigma, smallSigma, reachesCased_append_blank cs hb, ih,
      List.append_assoc]

theorem lowercaseFrom_solid {cs : List Char} (h : Solid cs) (before : List Char) :
    Solid (lowercaseFrom before cs) := by
  intro d hd
  refine Bool.eq_false_iff.2 fun hblank => ?_
  obtain ⟨c, hc, hcode⟩ := unreached_blankCodes.of_lowercaseFrom hd (toNat_mem_blankCodes hblank)
  exact Bool.eq_false_iff.1 (h c hc) (isBlank_of_mem_blankCodes hcode)

theorem lowercaseFrom_ne_nil (before : List Char) (c : Char) (cs : List Char) : lowercaseFrom before (c :: cs) ≠ [] := by
  rw [lowercaseFrom]
  split
  · simp
  · simp [smallForm_ne_nil c]

/-- a text without blanks is one word -/
theorem splitBlank_of_solid {c : Char} {cs : List Char} (h : Solid (c :: cs)) : splitBlank (c :: cs) = [c :: cs] := by
  induction cs generalizing c with
  | nil => simp [splitBlank, h c List.mem_cons_self]
  | cons d cs ih =>
    have hc := h c List.mem_cons_self
    have hd := h d (List.mem_cons_of_mem _ List.mem_cons_self)
    have hrest := ih fun e he => h e (List.mem_cons_of_mem _ he)
    rw [splitBlank, hrest]
    simp [hc, hd, extendFirst]

/-- a text either has no blank or is cut at its first one -/
theorem solid_or_cut (cs : List Char) :
    Solid cs ∨ ∃ front b rest, cs = front ++ b :: rest ∧ Solid front ∧ isBlank b = true := by
  induction cs with
  | nil => exact .inl (by simp [Solid])
  | cons c cs ih =>
    cases hc : isBlank c with
    | true => exact .inr ⟨[], c, cs, rfl, by simp [Solid], hc⟩
    | false =>
      rcases ih with hsolid | ⟨front, b, rest, rfl, hfront, hb⟩
      · exact .inl (by simpa [Solid, hc] using hsolid)
      · exact .inr ⟨c :: front, b, rest, rfl, by simpa [Solid, hc] using hfront, hb⟩

/-- a word of a text is not empty and has no blank, and all its characters come from the text -/
theorem mem_splitBlank {word cs : List Char} (h : word ∈ splitBlank cs) :
    word ≠ [] ∧ Solid word ∧ ∀ c ∈ word, c ∈ cs := by
  have single : ∀ {front : List Char}, Solid front → word ∈ splitBlank front →
      word ≠ [] ∧ Solid word ∧ ∀ c ∈ word, c ∈ front := by
    intro front hfront hword
    cases front with
    | nil => cases hword
    | cons c front =>
      rw [splitBlank_of_solid hfront] at hword
      cases List.mem_singleton.1 hword
      exact ⟨List.cons_ne_nil _ _, hfront, fun _ hd => hd⟩
  rcases solid_or_cut cs with hsolid | ⟨front, b, rest, rfl, hfront, hb⟩
  · exact single hsolid h
  · rw [splitBlank_append_blank _ hb, List.mem_append] at h
    rcases h with h | h
    · obtain ⟨hne, hword, hmem⟩ := single hfront h
      exact ⟨hne, hword, fun c hc => List.mem_append_left _ (hmem c hc)⟩
    · obtain ⟨hne, hword, hmem⟩ := mem_splitBlank h
      exact ⟨hne, hword, fun c hc => List.mem_append_right _ (List.mem_cons_of_mem _ (hmem c hc))⟩
termination_by cs.length
decreasing_by simp_all; omega

theorem splitBlank_lowercaseFrom_solid {cs : List Char} (h : Solid cs) :
    splitBlank (lowercaseFrom [] cs) = (splitBlank cs).map (lowercaseFrom []) := by
  cases cs with
  | nil => rfl
  | cons c cs =>
    have hsmall := lowercaseFrom_solid h []
    rw [splitBlank_of_solid h]
    cases hlower : lowercaseFrom [] (c :: cs) with
    | nil => exact absurd hlower (lowercaseFrom_ne_nil _ _ _)
    | cons d ds =>
      rw [hlower] at hsmall
      rw [splitBlank_of_solid hsmall, List.map_singleton, hlower]

/-- **Small letters leave the words of a text apart.** -/
theorem splitBlank_lowercaseFrom (cs : List Char) :
    splitBlank (lowercaseFrom [] cs) = (splitBlank cs).map (lowercaseFrom []) := by
  rcases solid_or_cut cs with hsolid | ⟨front, b, rest, rfl, hfront, hb⟩
  · exact splitBlank_lowercaseFrom_solid hsolid
  · rw [lowercaseFrom_append_blank front [] hb, splitBlank_append_blank _ hb, splitBlank_append_blank _ hb,
      List.map_append, splitBlank_lowercaseFrom_solid hfront, splitBlank_lowercaseFrom rest]
termination_by cs.length
decreasing_by simp_all; omega

theorem words_lowercase (s : String) : words (lowercase s) = (words s).map lowercase := by
  simp only [words, lowercase, String.toList_ofList, splitBlank_lowercaseFrom, List.map_map]
  exact List.map_congr_left fun word _ => by simp [lowercase]

/-! ## The case of ASCII letters -/

theorem toLower_capitals : ∀ i < 26,
    smallForm (Char.ofNat (65 + i)).toLower = smallForm (Char.ofNat (65 + i)) ∧
    caseIgnorableRanges.has (Char.ofNat (65 + i)).toLower = caseIgnorableRanges.has (Char.ofNat (65 + i)) ∧
    casedRanges.has (Char.ofNat (65 + i)).toLower = casedRanges.has (Char.ofNat (65 + i)) ∧
    ((Char.ofNat (65 + i)).toLower = 'Σ' ↔ Char.ofNat (65 + i) = 'Σ') := by
  decide +kernel

/-- the case of an ASCII letter does not matter to small letters -/
theorem smallForm_toLower (c : Char) : smallForm c.toLower = smallForm c ∧
    caseIgnorableRanges.has c.toLower = caseIgnorableRanges.has c ∧ casedRanges.has c.toLower = casedRanges.has c ∧
    (c.toLower = 'Σ' ↔ c = 'Σ') := by
  rcases toLower_eq_or c with hsmall | ⟨i, hi, rfl⟩
  · rw [hsmall]
    exact ⟨rfl, rfl, rfl, Iff.rfl⟩
  · exact toLower_capitals i hi

theorem reachesCased_foldCase (cs : List Char) : reachesCased (foldCase cs) = reachesCased cs := by
  unfold reachesCased
  induction cs with
  | nil => rfl
  | cons c cs ih =>
    obtain ⟨-, hignorable, hcased, -⟩ := smallForm_toLower c
    have hcons : foldCase (c :: cs) = c.toLower :: foldCase cs := rfl
    rw [hcons]
    cases hc : caseIgnorableRanges.has c with
    | true => rw [List.dropWhile_cons_of_pos (by rw [hignorable, hc]), List.dropWhile_cons_of_pos hc, ih]
    | false =>
      rw [List.dropWhile_cons_of_neg (by simp [hignorable, hc]), List.dropWhile_cons_of_neg (by simp [hc])]
      exact hcased

theorem lowercaseFrom_foldCase (before cs : List Char) :
    lowercaseFrom (foldCase before) (foldCase cs) = lowercaseFrom before cs := by
  induction cs generalizing before with
  | nil => rfl
  | cons c cs ih =>
    obtain ⟨hsmall, -, -, hsigma⟩ := smallForm_toLower c
    have hrest := ih (c :: before)
    simp only [foldCase, List.map_cons] at hrest ⊢
    rw [lowercaseFrom, lowercaseFrom, hrest, hsmall, smallSigma, smallSigma]
    have hbefore := reachesCased_foldCase before
    have hafter := reachesCased_foldCase cs
    rw [foldCase] at hbefore hafter
    rw [hbefore, hafter]
    simp only [hsigma]

/-- **Texts that are one up to the case of ASCII letters agree in small letters.** -/
theorem lowercase_congr {a b : String} (h : same a b = true) : lowercase a = lowercase b := by
  have hfold : foldCase a.toList = foldCase b.toList := by simpa [same, sameFolded] using h
  have ha := lowercaseFrom_foldCase [] a.toList
  have hb := lowercaseFrom_foldCase [] b.toList
  rw [lowercase, lowercase, ← ha, hfold, hb]

end Text

/-- **Names that agree in small letters have the same identifier.** -/
theorem identifierFor_congr {a b : String} (h : Text.lowercase a = Text.lowercase b) :
    identifierFor a = identifierFor b := by
  rw [identifierFor, identifierFor, ← Text.words_lowercase, ← Text.words_lowercase, h]

end Playscript
