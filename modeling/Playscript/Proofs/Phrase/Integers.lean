/-
Integers are spelled by their binary expansion, and folding gives them back.

- `expansionSum_eq_some`: a power of two and a smaller number of the same sign fold into their sum;
- `bitSum_setBits`: the set bits of a number below 2^64 add up to it;
- `nounWorth_eq_ok`: a noun behind agreeing adjectives is worth a power of two with the noun's sign;
- `spellInteger_yields`: whatever words are chosen, the phrase of an integer is made of the lexicon's words and means
  that integer.
-/
import Playscript.Phrase.Spelling
import Playscript.Proofs.Choosing
import Mathlib.Algebra.Ring.Nat
import Playscript.Proofs.Phrase.Reading

namespace Playscript

/-! ## Powers of two -/

theorem isPowerOfTwo_two_pow (k : Nat) : isPowerOfTwo (2 ^ k) = true := by
  simp [isPowerOfTwo, Nat.log2_two_pow, Nat.one_shiftLeft]

theorem narrow_eq_some {n : Int} (h1 : -9223372036854775808 ≤ n) (h2 : n ≤ 9223372036854775807) :
    ∃ w, narrow n = some w ∧ w.toInt = n := by
  refine ⟨Int64.ofInt n, ?_, Int64.toInt_ofInt_of_le (by omega) (by omega)⟩
  rw [narrow, if_pos ⟨h1, h2⟩]

/-- **A binary expansion folds.** A power of two and a smaller number of its sign fold into their sum. -/
theorem expansionSum_eq_some {a b sum : Int64} {s : Int} {k m : Nat} (hs : s = 1 ∨ s = -1)
    (ha : a.toInt = s * (2 ^ k : Nat)) (hb : b.toInt = s * m) (hm : 0 < m) (hlt : m < 2 ^ k)
    (hsum : sum.toInt = a.toInt + b.toInt) : expansionSum a b = some sum := by
  have hpos : 0 < 2 ^ k := Nat.two_pow_pos k
  have habs : a.toInt.natAbs = 2 ^ k := by rcases hs with rfl | rfl <;> omega
  have hsign : a.toInt.sign = b.toInt.sign := by
    rcases hs with rfl | rfl
    · rw [Int.sign_eq_one_of_pos (by omega), Int.sign_eq_one_of_pos (by omega)]
    · rw [Int.sign_eq_neg_one_of_neg (by omega), Int.sign_eq_neg_one_of_neg (by omega)]
  have hfold : a.toInt ≠ 0 ∧ b.toInt ≠ 0 ∧ a.toInt.sign = b.toInt.sign ∧
      isPowerOfTwo a.toInt.natAbs = true ∧ b.toInt.natAbs < a.toInt.natAbs := by
    refine ⟨?_, ?_, hsign, by rw [habs]; exact isPowerOfTwo_two_pow k, ?_⟩ <;> rcases hs with rfl | rfl <;> omega
  rw [expansionSum, if_pos hfold, ← hsum, narrow_toInt]

/-! ## Set bits -/

namespace Phrase

/-- the number whose binary expansion has these exponents -/
def bitSum (bits : List Nat) : Nat := (bits.map (2 ^ ·)).sum

theorem bitSum_cons (bit : Nat) (bits : List Nat) : bitSum (bit :: bits) = 2 ^ bit + bitSum bits := by
  simp [bitSum]

theorem bitSum_lt {bits : List Nat} (h : bits.Pairwise (· > ·)) {k : Nat} (hk : ∀ bit ∈ bits, bit < k) :
    bitSum bits < 2 ^ k := by
  induction bits generalizing k with
  | nil => exact Nat.two_pow_pos k
  | cons bit bits ih =>
    obtain ⟨hbit, hbits⟩ := List.pairwise_cons.1 h
    have hrest := ih hbits hbit
    have hstep : 2 ^ (bit + 1) ≤ 2 ^ k := Nat.pow_le_pow_right (by decide) (hk bit List.mem_cons_self)
    rw [bitSum_cons]
    omega

theorem bitSum_pos {bits : List Nat} (h : bits ≠ []) : 0 < bitSum bits := by
  cases bits with
  | nil => exact absurd rfl h
  | cons bit bits =>
    rw [bitSum_cons]
    have := Nat.two_pow_pos bit
    omega

theorem bitSum_filter_range (m k : Nat) : bitSum ((List.range k).reverse.filter m.testBit) = m % 2 ^ k := by
  induction k with
  | zero => simp [bitSum, Nat.mod_one]
  | succ k ih =>
    rw [List.range_succ, List.reverse_append, List.reverse_singleton, List.singleton_append, List.filter_cons]
    have hsplit : m % 2 ^ (k + 1) = m % 2 ^ k + 2 ^ k * (m.testBit k).toNat := by
      rw [Nat.mod_pow_succ, Nat.toNat_testBit]
    cases hbit : m.testBit k with
    | false => simpa [hbit, hsplit] using ih
    | true =>
      rw [if_pos rfl, bitSum_cons, ih, hsplit, hbit]
      simp [Nat.add_comm]

/-- **The set bits of a number add up to it.** -/
theorem bitSum_setBits {m : Nat} (h : m < 2 ^ 64) : bitSum (setBits m) = m := by
  rw [setBits, bitSum_filter_range, Nat.mod_eq_of_lt h]

theorem setBits_pairwise (m : Nat) : (setBits m).Pairwise (· > ·) := by
  unfold setBits
  exact List.Pairwise.filter _ (List.pairwise_reverse.2 List.pairwise_lt_range)

theorem mem_setBits {m : Nat} (h : m < 2 ^ 64) {k : Nat} : k ∈ setBits m ↔ m.testBit k = true := by
  have below : m.testBit k = true → k < 64 := fun hbit =>
    (Nat.pow_lt_pow_iff_right (by decide)).1 (Nat.lt_of_le_of_lt (Nat.ge_two_pow_of_testBit hbit) h)
  simpa [setBits] using below

/-! ## Nouns with adjectives -/

theorem checkAdjectives_ok {lexicon : Lexicon} {polarity : Polarity} {adjectives : List String} (noun : String)
    (h : ∀ adjective ∈ adjectives, ∃ p, lexicon.adjectivePolarity adjective = some p ∧ p.agreesWith polarity = true) :
    checkAdjectives lexicon noun polarity adjectives = .ok () := by
  induction adjectives with
  | nil => rfl
  | cons adjective adjectives ih =>
    obtain ⟨p, hp, hagree⟩ := h adjective List.mem_cons_self
    simp only [checkAdjectives, hp, hagree, if_true]
    exact ih fun a ha => h a (List.mem_cons_of_mem adjective ha)

/-- **A noun behind agreeing adjectives** is worth a power of two with its sign. -/
theorem nounWorth_eq_ok {lexicon : Lexicon} {polarity : Polarity} {adjectives : List String} {noun : String}
    (hn : lexicon.nounPolarity noun = some polarity)
    (ha : ∀ adjective ∈ adjectives, ∃ p, lexicon.adjectivePolarity adjective = some p ∧ p.agreesWith polarity = true)
    {worth : Int64} (hw : worth.toInt = polarity.sign.toInt * (2 ^ adjectives.length : Nat)) :
    nounWorth lexicon adjectives noun = .ok worth := by
  have fits : narrow (polarity.sign.toInt * (1 <<< adjectives.length : Nat)) = some worth := by
    rw [Nat.one_shiftLeft, ← hw, narrow_toInt]
  simp only [nounWorth, hn, checkAdjectives_ok noun ha, fits]
  rfl

end Phrase

/-! ## Where chosen words come from -/

namespace Stock

theorem mem_orElse {preferred fallback : List String} {word : String} (h : word ∈ orElse preferred fallback) :
    word ∈ preferred ∨ word ∈ fallback := by
  unfold orElse at h
  split at h
  · exact .inr h
  · exact .inl h

variable {lexicon : Lexicon} {cast : Cast} {word : String}

theorem mem_nouns (polarity : Polarity) (h : word ∈ (Stock.of lexicon cast).nouns.words polarity) :
    (word, .noun polarity) ∈ lexicon.entries := by
  rw [Lexicon.mem_entries_noun]
  cases polarity <;> exact (List.mem_filter.1 h).1

theorem mem_adjectives (polarity : Polarity) (h : word ∈ (Stock.of lexicon cast).adjectives.words polarity) :
    (word, .adjective polarity) ∈ lexicon.entries := by
  rw [Lexicon.mem_entries_adjective]
  cases polarity <;> exact (List.mem_filter.1 h).1

/-- a chosen noun has the sign asked for -/
theorem mem_nounsFor {negative : Bool} (h : word ∈ (Stock.of lexicon cast).nounsFor negative) :
    ∃ polarity, (word, .noun polarity) ∈ lexicon.entries ∧ polarity.sign = if negative then -1 else 1 := by
  cases negative with
  | true => exact ⟨.negative, mem_nouns .negative h, rfl⟩
  | false =>
    rcases mem_orElse h with h | h
    · exact ⟨.positive, mem_nouns .positive h, rfl⟩
    · exact ⟨.neutral, mem_nouns .neutral h, rfl⟩

/-- a chosen adjective has the polarity asked for or is neutral -/
theorem mem_adjectivesFor {polarity : Polarity} (h : word ∈ (Stock.of lexicon cast).adjectivesFor polarity) :
    ∃ p, (word, .adjective p) ∈ lexicon.entries ∧ (p = polarity ∨ p = .neutral) := by
  rcases mem_orElse h with h | h
  · exact ⟨polarity, mem_adjectives polarity h, .inl rfl⟩
  · exact ⟨.neutral, mem_adjectives .neutral h, .inr rfl⟩

end Stock

namespace Phrase

open Choosing

section Spelling

variable {lexicon : Lexicon} {cast : Cast} (hvalid : lexicon.validate = .ok ()) (n : Int64)

/-- the sign that the words for an integer have -/
def signOf (n : Int64) : Int := if n < 0 then -1 else 1

theorem spellAdjectives_yields (count : Nat) :
    Yields (spellAdjectives (Stock.of lexicon cast) n count) fun adjectives => adjectives.length = count ∧
      ∀ adjective ∈ adjectives, ∃ p, (adjective, .adjective p) ∈ lexicon.entries ∧
        (p = (if n < 0 then .negative else .positive) ∨ p = .neutral) := by
  induction count with
  | zero => exact yields_pure ⟨rfl, by simp⟩
  | succ count ih =>
    refine (yields_chooseOr _ _).bind fun adjective hadjective => ih.bind fun adjectives ⟨hlength, hall⟩ => ?_
    refine yields_pure ⟨by rw [List.length_cons, hlength], fun a ha => ?_⟩
    rcases List.mem_cons.1 ha with rfl | ha
    · exact Stock.mem_adjectivesFor hadjective
    · exact hall a ha

/-- a phrase made of a lexicon's words that is worth an integer, whoever the characters are -/
def Counts (lexicon : Lexicon) (w : Int64) (phrase : NounPhrase) : Prop :=
  (∀ names, phrase.Over lexicon names) ∧
    ∀ vocabulary : Vocabulary, vocabulary.lexicon = lexicon → meaning vocabulary phrase = .ok (.constant w)

include hvalid

theorem spellPower_yields {k : Nat} {w : Int64} (hw : w.toInt = signOf n * (2 ^ k : Nat)) :
    Yields (spellPower (Stock.of lexicon cast) n k) (Counts lexicon w) := by
  refine (yields_chooseOr _ _).bind fun noun hnoun => (spellAdjectives_yields n k).bind fun adjectives h => ?_
  obtain ⟨hlength, hall⟩ := h
  obtain ⟨polarity, hmem, hsign⟩ := Stock.mem_nounsFor hnoun
  have agree : ∀ adjective ∈ adjectives, ∃ p, lexicon.adjectivePolarity adjective = some p ∧
      p.agreesWith polarity = true := by
    intro adjective ha
    obtain ⟨p, hp, hcase⟩ := hall adjective ha
    refine ⟨p, Lexicon.adjectivePolarity_of_mem hvalid hp, ?_⟩
    rcases hcase with rfl | rfl
    · by_cases hn : n < 0 <;> simp [Polarity.agreesWith, hsign, hn] <;> rfl
    · rfl
  have worth : w.toInt = polarity.sign.toInt * (2 ^ adjectives.length : Nat) := by
    rw [hw, hsign, hlength, signOf]
    by_cases hn : n < 0 <;> simp [hn]
  refine yields_pure ⟨fun names => ⟨⟨polarity, hmem⟩, fun a ha => ?_⟩, fun vocabulary hl => ?_⟩
  · obtain ⟨p, hp, -⟩ := hall a ha
    exact ⟨p, hp⟩
  · rw [meaning, hl, nounWorth_eq_ok (Lexicon.nounPolarity_of_mem hvalid hmem) agree worth]
    rfl

theorem spellBits_yields {bits : List Nat} (hdesc : bits.Pairwise (· > ·)) (hne : bits ≠ []) {w : Int64}
    (hw : w.toInt = signOf n * (bitSum bits : Nat)) :
    Yields (spellBits (Stock.of lexicon cast) n bits) (Counts lexicon w) := by
  have hs : signOf n = 1 ∨ signOf n = -1 := by unfold signOf; split <;> simp
  induction bits generalizing w with
  | nil => exact absurd rfl hne
  | cons bit bits ih =>
    obtain ⟨hbit, hbits⟩ := List.pairwise_cons.1 hdesc
    cases bits with
    | nil => exact spellPower_yields hvalid n (by simpa [bitSum] using hw)
    | cons next bits =>
      have hpos := bitSum_pos (List.cons_ne_nil next bits)
      have hlt := bitSum_lt hbits hbit
      have hlow := w.le_toInt
      have hhigh := w.toInt_lt
      rw [bitSum_cons] at hw
      obtain ⟨a, -, ha⟩ : ∃ a, narrow (signOf n * (2 ^ bit : Nat)) = some a ∧ a.toInt = signOf n * (2 ^ bit : Nat) :=
        narrow_eq_some (by rcases hs with h | h <;> rw [h] at hw ⊢ <;> omega)
          (by rcases hs with h | h <;> rw [h] at hw ⊢ <;> omega)
      obtain ⟨b, -, hb⟩ : ∃ b, narrow (signOf n * (bitSum (next :: bits) : Nat)) = some b ∧
          b.toInt = signOf n * (bitSum (next :: bits) : Nat) :=
        narrow_eq_some (by rcases hs with h | h <;> rw [h] at hw ⊢ <;> omega)
          (by rcases hs with h | h <;> rw [h] at hw ⊢ <;> omega)
      have hsum : w.toInt = a.toInt + b.toInt := by rw [hw, ha, hb]; push_cast; exact Int.mul_add _ _ _
      have fold := expansionSum_eq_some hs ha hb hpos hlt hsum
      refine (spellPower_yields hvalid n ha).bind fun lhs hl => ?_
      refine (ih hbits (List.cons_ne_nil next bits) hb).bind fun rhs hr => ?_
      refine yields_pure ⟨fun names => ⟨hl.1 names, hr.1 names⟩, fun vocabulary hv => ?_⟩
      rw [meaning, hl.2 vocabulary hv, hr.2 vocabulary hv]
      simp only [bind, Except.bind, Value.combine, fold]
      rfl

/-- **Integers are spelled by their binary expansion** and the phrase is worth the integer. -/
theorem spellInteger_yields : Yields (spellInteger (Stock.of lexicon cast) n) (Counts lexicon n) := by
  have hlow := n.le_toInt
  have hhigh := n.toInt_lt
  have habs : bitSum (setBits n.toInt.natAbs) = n.toInt.natAbs := bitSum_setBits (by omega)
  by_cases hne : setBits n.toInt.natAbs = []
  · have hzero : n.toInt = 0 := by
      rw [hne] at habs
      have : bitSum [] = 0 := rfl
      omega
    have : n = 0 := Int64.toInt_inj.1 hzero
    subst this
    rw [spellInteger, hne]
    exact yields_pure ⟨fun names => trivial, fun vocabulary hv => rfl⟩
  · refine spellBits_yields hvalid n (setBits_pairwise _) hne ?_
    rw [habs, signOf]
    have hneg : n < 0 ↔ n.toInt < 0 := Int64.lt_iff_toInt_lt
    by_cases hn : n < 0
    · have := hneg.1 hn
      rw [if_pos hn]
      omega
    · have : ¬ n.toInt < 0 := fun h => hn (hneg.2 h)
      rw [if_neg hn]
      omega

end Spelling

end Phrase

end Playscript
