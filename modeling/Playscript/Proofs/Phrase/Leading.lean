/-
Folding undoes the first step of a binary expansion.

- `Leading`: the greatest power of two in a number, with its sign, and what is left of the number;
- `SplitAt`: the same by sign, exponent and rest; `leading_iff`, `expansionSum_iff`: that is what is folded;
- `bits_unique`, `setBits_split`: a number has one expansion, which goes on with that of the rest;
- `spellInteger_coincides`: a number that can be split is spelled as its first part and then as the rest, which both
  draw the same words and may fail for different causes only;
- `expansionSum_iff_leading`: so two numbers fold exactly if they are spelled as the two sides of their sum.
-/
import Playscript.Proofs.Phrase.Spelling
import Playscript.Proofs.Vocabulary

namespace Playscript

/-! ## The leading power of two -/

/-- `s` is not a power of two, not even a negative one, nor zero; `a` is the greatest power of two that is not above it
in magnitude, with its sign, and `b` is the rest -/
structure Leading (s a b : Int64) : Prop where
  nonzero : s ≠ 0
  composite : ∀ k, s.toInt.natAbs ≠ 2 ^ k
  greatest : ∃ k, a.toInt = s.toInt.sign * (2 ^ k : Nat) ∧ 2 ^ k ≤ s.toInt.natAbs ∧
    ∀ j, 2 ^ j ≤ s.toInt.natAbs → 2 ^ j ≤ 2 ^ k
  rest : b.toInt = s.toInt - a.toInt

/-- `s` has this sign, and its magnitude is that of `a`, a power of two, and that of `b`, a smaller number -/
structure SplitAt (s a b sign : Int) (k m : Nat) : Prop where
  unit : sign = 1 ∨ sign = -1
  first : a = sign * (2 ^ k : Nat)
  rest : b = sign * m
  sum : s = a + b
  pos : 0 < m
  lt : m < 2 ^ k

namespace SplitAt

variable {s a b sign : Int} {k m : Nat} (h : SplitAt s a b sign k m)
include h

/-- above zero all three are their magnitudes, and below zero the opposites of these -/
theorem by_sign :
    (sign = 1 ∧ s = (2 ^ k + m : Nat) ∧ a = (2 ^ k : Nat) ∧ b = m) ∨
    (sign = -1 ∧ s = -(2 ^ k + m : Nat) ∧ a = -(2 ^ k : Nat) ∧ b = -m) := by
  obtain ⟨unit, first, rest, sum, -, -⟩ := h
  rcases unit with rfl | rfl
  · refine .inl ⟨rfl, ?_, ?_, ?_⟩ <;> omega
  · refine .inr ⟨rfl, ?_, ?_, ?_⟩ <;> omega

theorem natAbs_first : a.natAbs = 2 ^ k := by
  have power := Nat.two_pow_pos k
  rcases h.by_sign with ⟨-, -, rfl, -⟩ | ⟨-, -, rfl, -⟩ <;> omega

theorem natAbs_rest : b.natAbs = m := by
  rcases h.by_sign with ⟨-, -, -, rfl⟩ | ⟨-, -, -, rfl⟩ <;> omega

theorem natAbs_sum : s.natAbs = 2 ^ k + m := by
  have power := Nat.two_pow_pos k
  rcases h.by_sign with ⟨-, rfl, -, -⟩ | ⟨-, rfl, -, -⟩ <;> omega

theorem sign_eq : s.sign = sign := by
  have power := Nat.two_pow_pos k
  have pos := h.pos
  rcases h.by_sign with ⟨rfl, rfl, -, -⟩ | ⟨rfl, rfl, -, -⟩
  · exact Int.sign_eq_one_of_pos (by omega)
  · exact Int.sign_eq_neg_one_of_neg (by omega)

/-- all three have the same sign -/
theorem neg_iff : (s < 0 ↔ a < 0) ∧ (s < 0 ↔ b < 0) := by
  have power := Nat.two_pow_pos k
  have pos := h.pos
  rcases h.by_sign with ⟨-, rfl, rfl, rfl⟩ | ⟨-, rfl, rfl, rfl⟩ <;> omega

end SplitAt

theorem sign_unit {n : Int} (h : n ≠ 0) : n.sign = 1 ∨ n.sign = -1 := by
  rcases Int.lt_or_gt_of_ne h with hneg | hpos
  · exact .inr (Int.sign_eq_neg_one_of_neg hneg)
  · exact .inl (Int.sign_eq_one_of_pos hpos)

theorem isPowerOfTwo_iff {m : Nat} : isPowerOfTwo m = true ↔ ∃ k, m = 2 ^ k := by
  constructor
  · intro h
    rw [isPowerOfTwo, beq_iff_eq, Nat.one_shiftLeft] at h
    exact ⟨m.log2, h.symm⟩
  · rintro ⟨k, rfl⟩
    exact isPowerOfTwo_two_pow k

/-- **Two numbers fold exactly if they split their sum.** -/
theorem expansionSum_iff {a b s : Int64} :
    expansionSum a b = some s ↔ ∃ sign k m, SplitAt s.toInt a.toInt b.toInt sign k m := by
  constructor
  · intro h
    unfold expansionSum at h
    split_ifs at h with hsplit
    obtain ⟨ha, hb, hsign, hpower, hlt⟩ := hsplit
    obtain ⟨k, hk⟩ := isPowerOfTwo_iff.1 hpower
    have first : a.toInt = a.toInt.sign * (2 ^ k : Nat) := by rw [← hk, Int.sign_mul_natAbs]
    have rest : b.toInt = a.toInt.sign * b.toInt.natAbs := by rw [hsign, Int.sign_mul_natAbs]
    exact ⟨a.toInt.sign, k, b.toInt.natAbs, sign_unit ha, first, rest, toInt_narrow h, Int.natAbs_pos.2 hb, hk ▸ hlt⟩
  · rintro ⟨sign, k, m, h⟩
    exact expansionSum_eq_some h.unit h.first h.rest h.pos h.lt h.sum

/-- the leading power of two is where a number splits -/
theorem leading_iff {s a b : Int64} : Leading s a b ↔ ∃ sign k m, SplitAt s.toInt a.toInt b.toInt sign k m := by
  constructor
  · rintro ⟨hnonzero, hcomposite, ⟨k, ha, hle, hgreatest⟩, hb⟩
    have hne : s.toInt ≠ 0 := fun hzero => hnonzero (Int64.toInt_inj.1 hzero)
    have above : s.toInt.natAbs < 2 ^ (k + 1) := by
      by_contra hlarge
      have := hgreatest (k + 1) (Nat.le_of_not_lt hlarge)
      have := Nat.two_pow_pos k
      omega
    have unequal := hcomposite k
    have whole : s.toInt = s.toInt.sign * s.toInt.natAbs := (Int.sign_mul_natAbs _).symm
    refine ⟨s.toInt.sign, k, s.toInt.natAbs - 2 ^ k, ?_, ha, ?_, ?_, ?_, ?_⟩
    · exact sign_unit hne
    · rw [hb, ha, Int.ofNat_sub hle, Int.mul_sub, ← whole]
    · omega
    · omega
    · omega
  · rintro ⟨sign, k, m, h⟩
    have magnitude := h.natAbs_sum
    have pos := h.pos
    have lt := h.lt
    have between : ∀ j, 2 ^ j ≤ 2 ^ k + m → j ≤ k := by
      intro j hj
      have hlt : 2 ^ j < 2 ^ (k + 1) := by omega
      have := (Nat.pow_lt_pow_iff_right (by decide : 1 < 2)).1 hlt
      omega
    refine ⟨?_, ?_, ⟨k, ?_, ?_, ?_⟩, ?_⟩
    · rintro rfl
      rw [Int64.toInt_zero] at magnitude
      omega
    · intro j hj
      rw [magnitude] at hj
      have hle := between j (Nat.le_of_eq hj.symm)
      have := Nat.pow_le_pow_right (by decide : 0 < 2) hle
      omega
    · rw [h.sign_eq]
      exact h.first
    · omega
    · intro j hj
      exact Nat.pow_le_pow_right (by decide) (between j (magnitude ▸ hj))
    · have sum := h.sum
      omega

/-! ## Its bits -/

namespace Phrase

/-- **A number has one expansion.** -/
theorem bits_unique {bits bits' : List Nat} (h : bits.Pairwise (· > ·)) (h' : bits'.Pairwise (· > ·))
    (hsum : bitSum bits = bitSum bits') : bits = bits' := by
  induction bits generalizing bits' with
  | nil =>
    by_contra hne
    have := bitSum_pos (Ne.symm hne)
    have empty : bitSum [] = 0 := rfl
    omega
  | cons bit bits ih =>
    cases bits' with
    | nil =>
      have := bitSum_pos (List.cons_ne_nil bit bits)
      have empty : bitSum [] = 0 := rfl
      omega
    | cons bit' bits' =>
      obtain ⟨hbit, hbits⟩ := List.pairwise_cons.1 h
      obtain ⟨hbit', hbits'⟩ := List.pairwise_cons.1 h'
      have rest := bitSum_lt hbits hbit
      have rest' := bitSum_lt hbits' hbit'
      rw [bitSum_cons, bitSum_cons] at hsum
      -- both sums lie between the power of their first bit and the next power
      have first : bit < bit' + 1 := (Nat.pow_lt_pow_iff_right (by decide : 1 < 2)).1 (by omega)
      have first' : bit' < bit + 1 := (Nat.pow_lt_pow_iff_right (by decide : 1 < 2)).1 (by omega)
      have same : bit = bit' := by omega
      subst same
      rw [ih hbits hbits' (by omega)]

theorem setBits_eq {m : Nat} (hm : m < 2 ^ 64) {bits : List Nat} (h : bits.Pairwise (· > ·)) (hsum : bitSum bits = m) :
    setBits m = bits :=
  bits_unique (setBits_pairwise m) h ((bitSum_setBits hm).trans hsum.symm)

theorem setBits_two_pow {k : Nat} (hk : 2 ^ k < 2 ^ 64) : setBits (2 ^ k) = [k] :=
  setBits_eq hk (List.pairwise_singleton _ k) (by simp [bitSum])

/-- **The expansion of a number goes on with that of the rest.** -/
theorem setBits_split {k m : Nat} (hlt : m < 2 ^ k) (hword : 2 ^ k + m < 2 ^ 64) :
    setBits (2 ^ k + m) = k :: setBits m := by
  have small : m < 2 ^ 64 := by omega
  refine setBits_eq hword (List.pairwise_cons.2 ⟨fun bit hbit => ?_, setBits_pairwise m⟩) ?_
  · have hle := Nat.ge_two_pow_of_testBit ((mem_setBits small).1 hbit)
    exact (Nat.pow_lt_pow_iff_right (by decide : 1 < 2)).1 (by omega)
  · rw [bitSum_cons, bitSum_setBits small]

end Phrase

/-! ## Its spelling -/

namespace Phrase

open Choosing

section Sign

variable (stock : Stock) {n n' : Int64} (hsign : n < 0 ↔ n' < 0)
include hsign

/-- which words may spell a number depends on its sign only -/
theorem spellAdjectives_coincides (count : Nat) :
    Coincide (spellAdjectives stock n count) (spellAdjectives stock n' count) := by
  induction count with
  | zero => exact coincide_refl _
  | succ count ih =>
    simp only [spellAdjectives, hsign]
    exact (coincide_chooseOr _ _ _).bind fun adjective => ih.bind fun rest => coincide_refl _

theorem spellPower_coincides (exponent : Nat) :
    Coincide (spellPower stock n exponent) (spellPower stock n' exponent) := by
  simp only [spellPower, hsign]
  exact (coincide_chooseOr _ _ _).bind fun noun =>
    (spellAdjectives_coincides stock hsign exponent).bind fun adjectives => coincide_refl _

theorem spellBits_coincides (bits : List Nat) : Coincide (spellBits stock n bits) (spellBits stock n' bits) := by
  induction bits with
  | nil => exact coincide_refl _
  | cons bit bits ih =>
    cases bits with
    | nil => exact spellPower_coincides stock hsign bit
    | cons next bits =>
      exact (spellPower_coincides stock hsign bit).bind fun lhs => ih.bind fun rhs => coincide_refl _

end Sign

/-- the spelling of one number, then that of another, joined to a sum -/
def spellSum (stock : Stock) (a b : Int64) : Choosing PhraseError NounPhrase := do
  let lhs ← spellInteger stock a
  let rhs ← spellInteger stock b
  return .binary .add lhs rhs

/-- **A number that splits is spelled as its parts**, word by word. -/
theorem spellInteger_coincides (stock : Stock) {s a b : Int64} {sign : Int} {k m : Nat}
    (h : SplitAt s.toInt a.toInt b.toInt sign k m) : Coincide (spellInteger stock s) (spellSum stock a b) := by
  have low := s.le_toInt
  have high := s.toInt_lt
  have power := Nat.two_pow_pos k
  have magnitude := h.natAbs_sum
  have word : 2 ^ k + m < 2 ^ 64 := by omega
  have whole : setBits s.toInt.natAbs = k :: setBits m := by rw [magnitude, setBits_split h.lt word]
  have first : setBits a.toInt.natAbs = [k] := by rw [h.natAbs_first, setBits_two_pow (by omega)]
  have rest : setBits b.toInt.natAbs = setBits m := by rw [h.natAbs_rest]
  have firstSign : s < 0 ↔ a < 0 := by
    rw [Int64.lt_iff_toInt_lt, Int64.lt_iff_toInt_lt]
    exact h.neg_iff.1
  have restSign : s < 0 ↔ b < 0 := by
    rw [Int64.lt_iff_toInt_lt, Int64.lt_iff_toInt_lt]
    exact h.neg_iff.2
  obtain ⟨bit, bits, hbits⟩ : ∃ bit bits, setBits m = bit :: bits := by
    refine List.exists_cons_of_ne_nil fun hnil => ?_
    have sum := bitSum_setBits (show m < 2 ^ 64 by omega)
    have pos := h.pos
    rw [hnil] at sum
    have empty : bitSum [] = 0 := rfl
    omega
  rw [spellSum, spellInteger, spellInteger, spellInteger, whole, first, rest, hbits]
  exact (spellPower_coincides stock firstSign k).bind fun lhs =>
    (spellBits_coincides stock restSign (bit :: bits)).bind fun rhs => coincide_refl _

/-! ## What is folded -/

theorem combine_eq_constant_iff {a b s : Int64} :
    Value.combine .add (.constant a) (.constant b) = .constant s ↔ expansionSum a b = some s := by
  rw [Value.combine]
  cases expansionSum a b with
  | none => simp
  | some sum => simp

/-- a sum of spellings means what the two numbers fold into, or their sum as it stands -/
theorem spellSum_yields {lexicon : Lexicon} (hvalid : lexicon.validate = .ok ()) (cast : Cast) (a b : Int64) :
    Yields (spellSum (Stock.of lexicon cast) a b) fun phrase => meaning (Vocabulary.of lexicon cast) phrase =
      .ok (Value.combine .add (.constant a) (.constant b)) := by
  refine (spellInteger_yields hvalid a).bind fun lhs hlhs => (spellInteger_yields hvalid b).bind fun rhs hrhs => ?_
  refine yields_pure ?_
  rw [meaning, hlhs.2 (Vocabulary.of lexicon cast) rfl, hrhs.2 (Vocabulary.of lexicon cast) rfl]
  rfl

theorem spellSum_of_expansionSum {a b s : Int64} (h : expansionSum a b = some s) {stock : Stock} {g : Generator}
    {phrase : NounPhrase} (hphrase : (spellInteger stock s g).1 = .ok phrase) :
    (spellSum stock a b g).1 = .ok phrase := by
  obtain ⟨sign, k, m, hsplit⟩ := expansionSum_iff.1 h
  obtain ⟨same, -⟩ := spellInteger_coincides stock hsplit g
  rw [hphrase] at same
  exact eq_ok_of_toOption same.symm

/-- **Folding is the split of a spelling.** Two numbers fold into `s` exactly if `s` is neither zero nor plus or minus a
power of two, `a` is the greatest power of two not above it, with its sign, and `b` is the rest; and exactly if every
phrase that spells `s`, whatever the words to choose from and whatever is chosen, is the sum of a spelling of `a` and of
one of `b`. With a valid lexicon one phrase of `s` decides. -/
theorem expansionSum_iff_leading (a b s : Int64) :
    (expansionSum a b = some s ↔ Leading s a b) ∧
    (expansionSum a b = some s ↔ ∀ (stock : Stock) (g : Generator) (phrase : NounPhrase),
      (spellInteger stock s g).1 = .ok phrase → (spellSum stock a b g).1 = .ok phrase) ∧
    ∀ (lexicon : Lexicon) (cast : Cast) (g : Generator) (phrase : NounPhrase), lexicon.validate = .ok () →
      (spellInteger (Stock.of lexicon cast) s g).1 = .ok phrase →
      (expansionSum a b = some s ↔ ∃ g', (spellSum (Stock.of lexicon cast) a b g').1 = .ok phrase) := by
  have decides : ∀ (lexicon : Lexicon) (cast : Cast) (g : Generator) (phrase : NounPhrase), lexicon.validate = .ok () →
      (spellInteger (Stock.of lexicon cast) s g).1 = .ok phrase →
      (expansionSum a b = some s ↔ ∃ g', (spellSum (Stock.of lexicon cast) a b g').1 = .ok phrase) := by
    intro lexicon cast g phrase hvalid hphrase
    constructor
    · intro h
      exact ⟨g, spellSum_of_expansionSum h hphrase⟩
    · rintro ⟨g', hsum⟩
      have single := (spellInteger_yields hvalid s g phrase hphrase).2 (Vocabulary.of lexicon cast) rfl
      rw [spellSum_yields hvalid cast a b g' phrase hsum] at single
      exact combine_eq_constant_iff.1 (Except.ok.inj single)
  refine ⟨expansionSum_iff.trans leading_iff.symm, ⟨?_, ?_⟩, decides⟩
  · intro h stock g phrase hphrase
    exact spellSum_of_expansionSum h hphrase
  · intro h
    -- the standard vocabulary never lacks a word, so there is a phrase of `s` to decide
    let cast : Cast := Cast.ofLexicon .standard
    have ample : (Vocabulary.of .standard cast).Ample :=
      Vocabulary.ample_of_standard fun name hname => absurd hname List.not_mem_nil
    obtain ⟨phrase, hphrase⟩ := (spellBits_succeeds ample s (setBits s.toInt.natAbs) (.ofSeed 0)).2 trivial
    exact (decides _ cast _ phrase Lexicon.standard_valid hphrase).2 ⟨_, h _ _ phrase hphrase⟩

/-- minus eleven is spelled as minus eight and minus three, so these fold; the least integer is a power of two, so
nothing folds into it -/
theorem expansionSum_iff_leading_minus_eleven :
    let lexicon : Lexicon := ⟨⟨["cat"], [], ["pig"]⟩, ⟨[], ["big"], []⟩, ⟨["better"], ["worse"]⟩,
      ⟨[⟨"I", "me", "myself", "am"⟩], [⟨"you", "you", "yourself", "are"⟩]⟩, ["I"], ["Romeo"]⟩
    let stock := Stock.of lexicon ⟨[], []⟩
    let phrase : NounPhrase := .binary .add (.noun ["big", "big", "big"] "pig")
      (.binary .add (.noun ["big"] "pig") (.noun [] "pig"))
    lexicon.validate = .ok () ∧ (spellInteger stock (-11) (.ofSeed 1)).1 = .ok phrase ∧
      (∃ g, (spellSum stock (-8) (-3) g).1 = .ok phrase) ∧ Leading (-11) (-8) (-3) ∧
      ∀ a b, expansionSum a b ≠ some Int64.minValue := by
  intro lexicon stock phrase
  have valid : lexicon.validate = .ok () := eq_ok_of_toOption (by decide)
  have spelled : (spellInteger stock (-11) (.ofSeed 1)).1 = .ok phrase := eq_ok_of_toOption (by decide)
  have folds : expansionSum (-8) (-3) = some (-11) := by decide
  obtain ⟨leads, -, decides⟩ := expansionSum_iff_leading (-8) (-3) (-11)
  refine ⟨valid, spelled, (decides lexicon ⟨[], []⟩ (.ofSeed 1) phrase valid spelled).1 folds, leads.1 folds, ?_⟩
  intro a b h
  have least : Int64.minValue.toInt.natAbs = 2 ^ 63 := by decide
  exact ((expansionSum_iff_leading a b Int64.minValue).1.1 h).composite 63 least

end Phrase

end Playscript
