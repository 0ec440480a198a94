/-
What a noun with adjectives stands for, and why it may stand for nothing.

- `Polarity.Clashes`, `agreesWith_eq_false_iff`: an adjective of one sign does not go with a noun of the other;
- `checkAdjectives_cases`: the first adjective that is unknown or clashes is the one reported;
- `fits_two_pow_iff`, `fits_neg_two_pow_iff`: a word holds one more power of two below zero than above;
- `shiftedOne`, `narrow_shiftedOne`: the powers that fit come out alike from a shift in a word of 128 bits, although the
  amount of that shift is cut to 32 bits;
- `NounMeaning`, `meaning_noun`: the limits and the order of the errors, for adjectives without number.
-/
import Playscript.Phrase.Meaning
import Playscript.Proofs.Arithmetic.Exact

namespace Playscript

/-! ## Powers of two -/

theorem fits_two_pow_iff {k : Nat} : Fits (2 ^ k) ↔ k ≤ 62 := by
  have positive : (0 : Int) < 2 ^ k := by positivity
  have bound : (2 : Int) ^ k < 2 ^ 63 ↔ k < 63 := pow_lt_pow_iff_right₀ (by decide)
  rw [Fits, bound]
  omega

theorem fits_neg_two_pow_iff {k : Nat} : Fits (-2 ^ k) ↔ k ≤ 63 := by
  have positive : (0 : Int) < 2 ^ k := by positivity
  have bound : (2 : Int) ^ k ≤ 2 ^ 63 ↔ k ≤ 63 := pow_le_pow_iff_right₀ (by decide)
  rw [Fits, neg_le_neg_iff, bound]
  omega

/-- a power of two as a shift in a signed word of 128 bits gives it: the amount of the shift is cut to 32 bits, there is
no result for an amount from the width on, and exponents from 127 on are refused whatever the shift gave -/
def shiftedOne (count : Nat) : Option Int :=
  let amount := count % 2 ^ 32
  (if amount < 128 then some (1#128 <<< amount).toInt else none).filter fun _ => count < 127

theorem toInt_one_shiftLeft {count : Nat} (h : count < 127) : (1#128 <<< count).toInt = 2 ^ count := by
  have small : 2 ^ count < 2 ^ 127 := Nat.pow_lt_pow_right (by decide) h
  have shifted : (1#128 <<< count).toNat = 2 ^ count := by
    rw [BitVec.toNat_shiftLeft, show (1#128).toNat = 1 from rfl, Nat.one_shiftLeft, Nat.mod_eq_of_lt (by omega)]
  rw [BitVec.toInt_eq_toNat_of_lt (by omega), shifted]
  exact Nat.cast_pow 2 count

theorem shiftedOne_eq (count : Nat) : shiftedOne count = if count < 127 then some (2 ^ count) else none := by
  by_cases h : count < 127
  · have amount : count % 2 ^ 32 = count := Nat.mod_eq_of_lt (by omega)
    have below : count < 128 := by omega
    simp only [shiftedOne, amount, if_pos below, toInt_one_shiftLeft h, Option.filter_some, h, decide_true, if_true]
  · rw [shiftedOne, if_neg h, Option.filter_eq_none_iff]
    exact fun _ _ => by simpa using h

namespace Polarity

/-- whether the signs of an adjective and of the noun behind it differ, where a neutral adjective has none -/
def Clashes (adjective noun : Polarity) : Prop :=
  adjective = .positive ∧ noun = .negative ∨ adjective = .negative ∧ noun ≠ .negative

theorem agreesWith_eq_false_iff {adjective noun : Polarity} :
    adjective.agreesWith noun = false ↔ adjective.Clashes noun := by
  cases adjective <;> cases noun <;> simp [agreesWith, Clashes, sign]

/-- a noun behind some adjectives doubles a one of its own sign -/
theorem signed_two_pow (polarity : Polarity) (count : Nat) :
    polarity.sign.toInt * (1 <<< count : Nat) = if polarity = .negative then -2 ^ count else 2 ^ count := by
  have power : ((1 <<< count : Nat) : Int) = 2 ^ count := by rw [Nat.one_shiftLeft, Nat.cast_pow, Nat.cast_ofNat]
  rw [power]
  cases polarity with
  | positive => exact one_mul _
  | neutral => exact one_mul _
  | negative => exact neg_one_mul _

theorem fits_signed_iff (polarity : Polarity) (count : Nat) :
    Fits (polarity.sign.toInt * (1 <<< count : Nat)) ↔ count ≤ if polarity = .negative then 63 else 62 := by
  rw [signed_two_pow]
  split_ifs
  · exact fits_neg_two_pow_iff
  · exact fits_two_pow_iff

/-- **A shift in words gives the powers that fit**, and no others: where the amount starts again from zero, the exponent
is far too large. -/
theorem narrow_shiftedOne (polarity : Polarity) (count : Nat) :
    narrow (polarity.sign.toInt * (1 <<< count : Nat)) =
      (shiftedOne count).bind fun power => narrow (polarity.sign.toInt * power) := by
  rw [shiftedOne_eq]
  split_ifs with h
  · rw [Option.bind_some, Nat.one_shiftLeft, Nat.cast_pow, Nat.cast_ofNat]
  · rw [Option.bind_none, narrow_eq_none_iff, fits_signed_iff]
    split_ifs <;> omega

end Polarity

namespace Phrase

section Adjectives

variable (lexicon : Lexicon) (noun : String) (polarity : Polarity)

/-- an adjective that may stand in front of a noun of this polarity -/
def Qualifies (adjective : String) : Prop :=
  ∃ p, lexicon.adjectivePolarity adjective = some p ∧ ¬ p.Clashes polarity

/-- what is wrong with an adjective in front of a noun -/
inductive Unfit (adjective : String) : PhraseError → Prop where
  | unknown : lexicon.adjectivePolarity adjective = none → Unfit adjective (.unknownWord adjective)
  | mismatch {p : Polarity} : lexicon.adjectivePolarity adjective = some p → p.Clashes polarity →
    Unfit adjective (.polarityMismatch adjective noun)

/-- **The first adjective that is no good is reported.** -/
theorem checkAdjectives_cases (adjectives : List String) :
    (∀ adjective ∈ adjectives, Qualifies lexicon polarity adjective) ∧
        checkAdjectives lexicon noun polarity adjectives = .ok () ∨
      ∃ before adjective after error, adjectives = before ++ adjective :: after ∧
        (∀ earlier ∈ before, Qualifies lexicon polarity earlier) ∧ Unfit lexicon noun polarity adjective error ∧
        checkAdjectives lexicon noun polarity adjectives = .error error := by
  induction adjectives with
  | nil => exact .inl ⟨nofun, rfl⟩
  | cons adjective adjectives ih =>
    cases hp : lexicon.adjectivePolarity adjective with
    | none =>
      refine .inr ⟨[], adjective, adjectives, _, rfl, nofun, .unknown hp, ?_⟩
      simp only [checkAdjectives, hp]
    | some p =>
      cases hagrees : p.agreesWith polarity with
      | false =>
        refine .inr ⟨[], adjective, adjectives, _, rfl, nofun, .mismatch hp ?_, ?_⟩
        · exact Polarity.agreesWith_eq_false_iff.1 hagrees
        · simp only [checkAdjectives, hp, hagrees, Bool.false_eq_true, if_false]
      | true =>
        have qualifies : Qualifies lexicon polarity adjective := by
          refine ⟨p, hp, fun clash => ?_⟩
          rw [Polarity.agreesWith_eq_false_iff.2 clash] at hagrees
          cases hagrees
        have goesOn : checkAdjectives lexicon noun polarity (adjective :: adjectives) =
            checkAdjectives lexicon noun polarity adjectives := by
          simp only [checkAdjectives, hp, hagrees, if_true]
        rw [goesOn]
        rcases ih with ⟨hall, hok⟩ | ⟨before, first, after, error, rfl, hbefore, hunfit, herror⟩
        · exact .inl ⟨List.forall_mem_cons.2 ⟨qualifies, hall⟩, hok⟩
        · exact .inr ⟨adjective :: before, first, after, error, rfl, List.forall_mem_cons.2 ⟨qualifies, hbefore⟩,
            hunfit, herror⟩

end Adjectives

/-- what a noun with adjectives may stand for: the causes of a failure in the order in which they are looked for, and the
worth of a noun whose adjectives are all good and not too many -/
inductive NounMeaning (lexicon : Lexicon) (adjectives : List String) (noun : String) :
    Except PhraseError Value → Prop where
  | unknownNoun : lexicon.nounPolarity noun = none → NounMeaning lexicon adjectives noun (.error (.unknownWord noun))
  | unfit {polarity : Polarity} {before after : List String} {adjective : String} {error : PhraseError} :
    lexicon.nounPolarity noun = some polarity → adjectives = before ++ adjective :: after →
    (∀ earlier ∈ before, Qualifies lexicon polarity earlier) → Unfit lexicon noun polarity adjective error →
    NounMeaning lexicon adjectives noun (.error error)
  | worthy {polarity : Polarity} {worth : Int64} : lexicon.nounPolarity noun = some polarity → polarity ≠ .negative →
    (∀ adjective ∈ adjectives, Qualifies lexicon polarity adjective) → adjectives.length ≤ 62 →
    worth.toInt = 2 ^ adjectives.length → NounMeaning lexicon adjectives noun (.ok (.constant worth))
  | unworthy {worth : Int64} : lexicon.nounPolarity noun = some .negative →
    (∀ adjective ∈ adjectives, Qualifies lexicon .negative adjective) → adjectives.length ≤ 63 →
    worth.toInt = -2 ^ adjectives.length → NounMeaning lexicon adjectives noun (.ok (.constant worth))
  | overflow {polarity : Polarity} : lexicon.nounPolarity noun = some polarity →
    (∀ adjective ∈ adjectives, Qualifies lexicon polarity adjective) →
    (if polarity = .negative then 63 else 62) < adjectives.length →
    NounMeaning lexicon adjectives noun (.error (.overflow adjectives.length))

/-- **A noun with adjectives has exact limits, and its errors a fixed order.** For every vocabulary, every noun and
adjectives of any number: a noun that is not known is reported, or else the first adjective that is not known or does not
go with the noun. If there is none, the noun stands for two to the power of the number of adjectives, or for minus that
if it is a negative noun, as long as a word of 64 bits holds it: up to 62 adjectives, or 63 with a negative noun. From
there on it is an overflow, however many there are; and a shift in words whose amount is cut to 32 bits gives no power of
two that this does not. -/
theorem meaning_noun (vocabulary : Vocabulary) (adjectives : List String) (noun : String) :
    NounMeaning vocabulary.lexicon adjectives noun (meaning vocabulary (.noun adjectives noun)) ∧
      ∀ polarity : Polarity, narrow (polarity.sign.toInt * (1 <<< adjectives.length : Nat)) =
        (shiftedOne adjectives.length).bind fun power => narrow (polarity.sign.toInt * power) := by
  refine ⟨?_, fun polarity => polarity.narrow_shiftedOne adjectives.length⟩
  cases hnoun : vocabulary.lexicon.nounPolarity noun with
  | none =>
    simp only [meaning, nounWorth, hnoun]
    exact .unknownNoun hnoun
  | some polarity =>
    rcases checkAdjectives_cases vocabulary.lexicon noun polarity adjectives with
      ⟨hall, hok⟩ | ⟨before, adjective, after, error, hcut, hbefore, hunfit, herror⟩
    · have fits := polarity.fits_signed_iff adjectives.length
      cases hworth : narrow (polarity.sign.toInt * (1 <<< adjectives.length : Nat)) with
      | none =>
        simp only [meaning, nounWorth, hnoun, hok, hworth]
        exact .overflow hnoun hall (not_le.1 (mt fits.2 (narrow_eq_none_iff.1 hworth)))
      | some worth =>
        have exact := toInt_narrow hworth
        have limit := fits.1 (exact ▸ fits_toInt worth)
        rw [polarity.signed_two_pow] at exact
        simp only [meaning, nounWorth, hnoun, hok, hworth]
        split_ifs at exact limit with hsign
        · subst hsign
          exact .unworthy hnoun hall limit exact
        · exact .worthy hnoun hsign hall limit exact
    · simp only [meaning, nounWorth, hnoun, herror]
      exact .unfit hnoun hcut hbefore hunfit

end Phrase

end Playscript
