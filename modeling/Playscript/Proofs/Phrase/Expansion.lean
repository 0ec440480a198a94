/-
Integers are spelled bit by bit.

- `Cast.Unnamed`: a word that is in no name of the cast;
- `Lexicon.NounFor`, `Lexicon.AdjectiveFor`: the words of a lexicon that may spell an integer beside that cast;
- `NounPhrase.Expands`: a sum of nouns behind adjectives, one for each of a list of exponents;
- `nounFor_of_mem`, `nounsFor_ne_nil` and their like for adjectives: what may be chosen is such a word, and there is
  something to choose from where there is such a word;
- `spellBits_expands`: so a list of bits is spelled bit by bit;
- `spellInteger_expands`: and an integer by the bits set in its magnitude, unless there is no word left for it.
-/
import Playscript.Proofs.Phrase.Spelling

namespace Playscript

/-- a word, in whatever letter case, that no name contains -/
def Cast.Unnamed (cast : Cast) (word : String) : Prop :=
  ∀ name ∈ cast.names, ∀ part ∈ Text.words name, Text.lowercase part ≠ Text.lowercase word

/-- a word of a table with one of the polarities wanted, understood to have that polarity, that no name contains -/
def WordClass.Offers (table : WordClass) (polarityOf : String → Option Polarity) (cast : Cast) (wanted : List Polarity)
    (word : String) : Prop :=
  (∃ polarity ∈ wanted, word ∈ table.words polarity ∧ polarityOf word = some polarity) ∧ cast.Unnamed word

namespace Lexicon

/-- a noun that may spell an integer: it has the sign of the integer, and no negative one has a neutral noun -/
def NounFor (lexicon : Lexicon) (cast : Cast) (n : Int64) : String → Prop :=
  lexicon.nouns.Offers lexicon.nounPolarity cast (if n < 0 then [.negative] else [.positive, .neutral])

/-- an adjective that may spell an integer: it has the sign of the integer or is neutral -/
def AdjectiveFor (lexicon : Lexicon) (cast : Cast) (n : Int64) : String → Prop :=
  lexicon.adjectives.Offers lexicon.adjectivePolarity cast [if n < 0 then .negative else .positive, .neutral]

end Lexicon

/-- a plain noun that spells the power of two with this exponent and the sign of `n` -/
structure SpellsPower (lexicon : Lexicon) (cast : Cast) (n : Int64) (exponent : Nat) (adjectives : List String)
    (noun : String) : Prop where
  count : adjectives.length = exponent
  adjectives : ∀ adjective ∈ adjectives, lexicon.AdjectiveFor cast n adjective
  noun : lexicon.NounFor cast n noun

/-- a sum, nested to the right, of plain nouns, one for each exponent in order -/
inductive NounPhrase.Expands (lexicon : Lexicon) (cast : Cast) (n : Int64) : List Nat → NounPhrase → Prop
  | power {exponent : Nat} {adjectives : List String} {noun : String} :
    SpellsPower lexicon cast n exponent adjectives noun → Expands lexicon cast n [exponent] (.noun adjectives noun)
  | sum {exponent : Nat} {exponents : List Nat} {adjectives : List String} {noun : String} {rest : NounPhrase} :
    SpellsPower lexicon cast n exponent adjectives noun → Expands lexicon cast n exponents rest →
    Expands lexicon cast n (exponent :: exponents) (.binary .add (.noun adjectives noun) rest)

/-! ## What there is to choose from -/

theorem Cast.unnamed_iff {cast : Cast} {word : String} : cast.Unnamed word ↔ Text.lowercase word ∉ cast.reserved := by
  simp only [Unnamed, reserved, List.mem_map, List.mem_flatMap]
  constructor
  · rintro h ⟨part, ⟨name, hname, hpart⟩, hsame⟩
    exact h name hname part hpart hsame
  · exact fun h name hname part hpart hsame => h ⟨part, ⟨name, hname, hpart⟩, hsame⟩

namespace Stock

theorem orElse_ne_nil {preferred fallback : List String} :
    orElse preferred fallback ≠ [] ↔ ∃ word, word ∈ preferred ∨ word ∈ fallback := by
  cases preferred with
  | nil => simp [orElse, List.eq_nil_iff_forall_not_mem]
  | cons word words => exact iff_of_true (List.cons_ne_nil word words) ⟨word, .inl List.mem_cons_self⟩

variable {lexicon : Lexicon} {cast : Cast} {word : String}

/-- a table of the stock has the words of the lexicon's table that no name contains -/
theorem mem_filtered {table : WordClass} {polarity : Polarity} :
    word ∈ (table.filter fun word => !cast.reserved.contains (Text.lowercase word)).words polarity ↔
      word ∈ table.words polarity ∧ cast.Unnamed word := by
  rw [Cast.unnamed_iff]
  cases polarity <;> simp [WordClass.filter, WordClass.words]

section Offers

variable (valid : lexicon.validate = .ok ())
include valid

theorem mem_nouns_iff (polarity : Polarity) :
    word ∈ (Stock.of lexicon cast).nouns.words polarity ↔
      (word ∈ lexicon.nouns.words polarity ∧ lexicon.nounPolarity word = some polarity) ∧ cast.Unnamed word := by
  have understood : word ∈ lexicon.nouns.words polarity → lexicon.nounPolarity word = some polarity :=
    fun h => Lexicon.nounPolarity_of_mem valid (Lexicon.mem_entries_noun.2 h)
  rw [and_iff_left_of_imp understood]
  exact mem_filtered

theorem mem_adjectives_iff (polarity : Polarity) :
    word ∈ (Stock.of lexicon cast).adjectives.words polarity ↔
      (word ∈ lexicon.adjectives.words polarity ∧ lexicon.adjectivePolarity word = some polarity) ∧
        cast.Unnamed word := by
  have understood : word ∈ lexicon.adjectives.words polarity → lexicon.adjectivePolarity word = some polarity :=
    fun h => Lexicon.adjectivePolarity_of_mem valid (Lexicon.mem_entries_adjective.2 h)
  rw [and_iff_left_of_imp understood]
  exact mem_filtered

/-- a noun that spells an integer is in one of the two tables looked at -/
theorem nounFor_iff {n : Int64} : lexicon.NounFor cast n word ↔
    if n < 0 then word ∈ (Stock.of lexicon cast).nouns.words .negative
    else word ∈ (Stock.of lexicon cast).nouns.words .positive ∨
      word ∈ (Stock.of lexicon cast).nouns.words .neutral := by
  have inTable : ∀ polarity, word ∈ (Stock.of lexicon cast).nouns.words polarity ↔ _ := mem_nouns_iff valid
  by_cases hn : n < 0
  · rw [if_pos hn, Lexicon.NounFor, if_pos hn, WordClass.Offers]
    simpa using (inTable .negative).symm
  · rw [if_neg hn, Lexicon.NounFor, if_neg hn, WordClass.Offers]
    simpa [or_and_right, exists_or] using (or_congr (inTable .positive) (inTable .neutral)).symm

theorem adjectiveFor_iff {n : Int64} : lexicon.AdjectiveFor cast n word ↔
    word ∈ (Stock.of lexicon cast).adjectives.words (if n < 0 then .negative else .positive) ∨
      word ∈ (Stock.of lexicon cast).adjectives.words .neutral := by
  have inTable : ∀ polarity, word ∈ (Stock.of lexicon cast).adjectives.words polarity ↔ _ := mem_adjectives_iff valid
  rw [Lexicon.AdjectiveFor, WordClass.Offers]
  simpa [or_and_right, exists_or] using
    (or_congr (inTable (if n < 0 then .negative else .positive)) (inTable .neutral)).symm

/-- whatever noun is chosen may spell the integer -/
theorem nounFor_of_mem {n : Int64} (h : word ∈ (Stock.of lexicon cast).nounsFor (n < 0)) :
    lexicon.NounFor cast n word := by
  rw [nounFor_iff valid]
  by_cases hn : n < 0
  · simp only [nounsFor, hn, decide_true, if_true] at h ⊢
    exact h
  · simp only [nounsFor, hn, decide_false, Bool.false_eq_true, if_false] at h ⊢
    exact mem_orElse h

theorem adjectiveFor_of_mem {n : Int64}
    (h : word ∈ (Stock.of lexicon cast).adjectivesFor (if n < 0 then .negative else .positive)) :
    lexicon.AdjectiveFor cast n word :=
  (adjectiveFor_iff valid).2 (mem_orElse h)

/-- **There is a noun to choose** exactly if one may spell the integer. -/
theorem nounsFor_ne_nil {n : Int64} :
    (Stock.of lexicon cast).nounsFor (n < 0) ≠ [] ↔ ∃ word, lexicon.NounFor cast n word := by
  simp only [nounFor_iff valid]
  by_cases hn : n < 0
  · simp only [nounsFor, hn, decide_true, if_true]
    exact ⟨List.exists_mem_of_ne_nil _, fun ⟨_, h⟩ => List.ne_nil_of_mem h⟩
  · simp only [nounsFor, hn, decide_false, Bool.false_eq_true, if_false]
    exact orElse_ne_nil

theorem adjectivesFor_ne_nil {n : Int64} :
    (Stock.of lexicon cast).adjectivesFor (if n < 0 then .negative else .positive) ≠ [] ↔
      ∃ word, lexicon.AdjectiveFor cast n word := by
  simp only [adjectiveFor_iff valid]
  exact orElse_ne_nil

end Offers

end Stock

namespace Phrase

open Choosing

section Spelling

variable {lexicon : Lexicon} (valid : lexicon.validate = .ok ()) (cast : Cast) (n : Int64)
include valid

theorem spellAdjectives_offered (count : Nat) :
    Yields (spellAdjectives (Stock.of lexicon cast) n count) fun adjectives =>
      adjectives.length = count ∧ ∀ adjective ∈ adjectives, lexicon.AdjectiveFor cast n adjective := by
  induction count with
  | zero => exact yields_pure ⟨rfl, by simp⟩
  | succ count ih =>
    refine (yields_chooseOr _ _).bind fun adjective hadjective => ih.bind fun rest ⟨hlength, hrest⟩ => yields_pure ?_
    exact ⟨congrArg (· + 1) hlength, List.forall_mem_cons.2 ⟨Stock.adjectiveFor_of_mem valid hadjective, hrest⟩⟩

theorem spellPower_spells (exponent : Nat) :
    Yields (spellPower (Stock.of lexicon cast) n exponent) fun phrase =>
      ∃ adjectives noun, phrase = .noun adjectives noun ∧ SpellsPower lexicon cast n exponent adjectives noun := by
  refine (yields_chooseOr _ _).bind fun noun hnoun => ?_
  refine (spellAdjectives_offered valid cast n exponent).bind fun adjectives ⟨hlength, hall⟩ => yields_pure ?_
  exact ⟨adjectives, noun, rfl, hlength, hall, Stock.nounFor_of_mem valid hnoun⟩

/-- **Bits are spelled one by one**, in order. -/
theorem spellBits_expands {bits : List Nat} (hne : bits ≠ []) :
    Yields (spellBits (Stock.of lexicon cast) n bits) (NounPhrase.Expands lexicon cast n bits) := by
  induction bits with
  | nil => exact absurd rfl hne
  | cons bit bits ih =>
    cases bits with
    | nil =>
      refine (spellPower_spells valid cast n bit).mono ?_
      rintro phrase ⟨adjectives, noun, rfl, hspells⟩
      exact .power hspells
    | cons next bits =>
      refine (spellPower_spells valid cast n bit).bind ?_
      rintro phrase ⟨adjectives, noun, rfl, hspells⟩
      exact (ih (List.cons_ne_nil next bits)).bind fun rest hrest => yields_pure (.sum hspells hrest)

end Spelling

/-! ## Failing -/

section Failing

variable (stock : Stock) (n : Int64)

/-- the one cause for which an integer has no phrase -/
def Unrepresentable (n : Int64) (cause : PhraseError) : Prop := ∃ missing, cause = .unrepresentable n missing

theorem spellAdjectives_blames (count : Nat) : Blames (spellAdjectives stock n count) (Unrepresentable n) := by
  induction count with
  | zero => exact blames_pure _ _
  | succ count ih =>
    exact (blames_chooseOr ⟨.adjective, rfl⟩ _).bind fun adjective => ih.bind fun rest => blames_pure _ _

theorem spellPower_blames (exponent : Nat) : Blames (spellPower stock n exponent) (Unrepresentable n) :=
  (blames_chooseOr ⟨.noun, rfl⟩ _).bind fun _ => (spellAdjectives_blames stock n exponent).bind fun _ => blames_pure _ _

theorem spellBits_blames (bits : List Nat) : Blames (spellBits stock n bits) (Unrepresentable n) := by
  induction bits with
  | nil => exact blames_pure _ _
  | cons bit bits ih =>
    cases bits with
    | nil => exact spellPower_blames stock n bit
    | cons next bits => exact (spellPower_blames stock n bit).bind fun lhs => ih.bind fun rhs => blames_pure _ _

end Failing

/-! ## Integers -/

theorem exists_mem_setBits {m : Nat} (h : m < 2 ^ 64) : (∃ k, k ∈ setBits m) ↔ m ≠ 0 := by
  simp only [mem_setBits h]
  refine ⟨?_, fun hm => ⟨m.log2, Nat.testBit_log2 hm⟩⟩
  rintro ⟨k, hk⟩ rfl
  simp at hk

/-- a number has a bit above the lowest exactly if it is more than one -/
theorem exists_pos_mem_setBits {m : Nat} (h : m < 2 ^ 64) : (∃ k ∈ setBits m, 0 < k) ↔ 1 < m := by
  simp only [mem_setBits h]
  constructor
  · rintro ⟨k, hbit, hk⟩
    exact Nat.lt_of_lt_of_le (Nat.one_lt_two_pow (Nat.ne_of_gt hk)) (Nat.ge_two_pow_of_testBit hbit)
  · intro hm
    obtain ⟨k, hk, hbit⟩ := Nat.exists_ge_and_testBit_of_ge_two_pow (n := 1) hm
    exact ⟨k, hbit, hk⟩

/-- **Integers are spelled as their binary expansion.** An integer other than zero fails, for itself, or is a sum of
nouns, one for each bit set in its magnitude, the highest first, each with as many adjectives as its exponent. It fails
exactly if there is no noun left for it, or no adjective for a magnitude above one. -/
theorem spellInteger_expands {lexicon : Lexicon} (valid : lexicon.validate = .ok ()) (cast : Cast) (g : Generator)
    {n : Int64} (nonzero : n ≠ 0) :
    let answer := (spellInteger (Stock.of lexicon cast) n g).1
    ((∃ missing, answer = .error (.unrepresentable n missing)) ∨
      ∃ phrase bits, answer = .ok phrase ∧ bits.Pairwise (· > ·) ∧
        (∀ k, k ∈ bits ↔ n.toInt.natAbs.testBit k = true) ∧ phrase.Expands lexicon cast n bits) ∧
    ((∃ missing, answer = .error (.unrepresentable n missing)) ↔
      (∀ word, ¬ lexicon.NounFor cast n word) ∨
        1 < n.toInt.natAbs ∧ ∀ word, ¬ lexicon.AdjectiveFor cast n word) := by
  intro answer
  have small : n.toInt.natAbs < 2 ^ 64 := by
    have := n.le_toInt
    have := n.toInt_lt
    omega
  have magnitude : n.toInt.natAbs ≠ 0 := fun h => nonzero (Int64.toInt_inj.1 (Int.natAbs_eq_zero.1 h))
  have some_bit := (exists_mem_setBits small).2 magnitude
  have succeeds : (∃ phrase, answer = .ok phrase) ↔
      (∃ word, lexicon.NounFor cast n word) ∧
        (1 < n.toInt.natAbs → ∃ word, lexicon.AdjectiveFor cast n word) := by
    rw [← Stock.nounsFor_ne_nil valid, ← Stock.adjectivesFor_ne_nil valid, ← exists_pos_mem_setBits small]
    refine (spellBits_stocked _ n _ g).trans ?_
    constructor
    · intro h
      obtain ⟨k, hk⟩ := some_bit
      exact ⟨(h k hk).1, fun ⟨k, hk, hpos⟩ => (h k hk).2 hpos⟩
    · exact fun h k hk => ⟨h.1, fun hpos => h.2 ⟨k, hk, hpos⟩⟩
  have blames : ∀ cause, answer = .error cause → Unrepresentable n cause := spellBits_blames _ n _ g
  cases hanswer : answer with
  | error cause =>
    obtain ⟨missing, rfl⟩ := blames cause hanswer
    refine ⟨.inl ⟨missing, rfl⟩, iff_of_true ⟨missing, rfl⟩ ?_⟩
    by_contra! hleft
    obtain ⟨phrase, hphrase⟩ := succeeds.2 hleft
    rw [hanswer] at hphrase
    cases hphrase
  | ok phrase =>
    have hne : setBits n.toInt.natAbs ≠ [] := List.ne_nil_of_mem some_bit.choose_spec
    have expands := spellBits_expands valid cast n hne g phrase hanswer
    refine ⟨.inr ⟨phrase, _, rfl, setBits_pairwise _, fun k => mem_setBits small, expands⟩, ?_⟩
    refine iff_of_false (by rintro ⟨missing, hcause⟩; cases hcause) ?_
    obtain ⟨⟨noun, hnoun⟩, hadjective⟩ := succeeds.1 ⟨phrase, hanswer⟩
    rintro (nouns | ⟨hlarge, adjectives⟩)
    · exact nouns noun hnoun
    · obtain ⟨adjective, h⟩ := hadjective hlarge
      exact adjectives adjective h

/-- the least integer is one noun behind 63 adjectives, a noun that no name contains, and has no phrase beside a cast
whose names contain the only adjective -/
theorem spellInteger_expands_least :
    let lexicon : Lexicon := ⟨⟨["cat"], [], ["pig", "toad"]⟩, ⟨[], ["big"], []⟩, ⟨["better"], ["worse"]⟩,
      ⟨[⟨"I", "me", "myself", "am"⟩], [⟨"you", "you", "yourself", "are"⟩]⟩, ["I"], ["Romeo"]⟩
    let cast : Cast := ⟨[], [(⟨"pig"⟩, "Pig")]⟩
    let crowded : Cast := ⟨[], [(⟨"big_pig"⟩, "Big Pig")]⟩
    lexicon.validate = .ok () ∧ Int64.minValue ≠ 0 ∧
      (∃ phrase bits, (spellInteger (Stock.of lexicon cast) Int64.minValue (.ofSeed 7)).1 = .ok phrase ∧
        (∀ k, k ∈ bits ↔ k = 63) ∧ phrase.Expands lexicon cast Int64.minValue bits) ∧
      ∃ missing, (spellInteger (Stock.of lexicon crowded) Int64.minValue (.ofSeed 7)).1 =
        .error (.unrepresentable Int64.minValue missing) := by
  intro lexicon cast crowded
  have valid : lexicon.validate = .ok () := eq_ok_of_toOption (by decide)
  have nonzero : Int64.minValue ≠ 0 := by decide
  have noun : lexicon.NounFor cast Int64.minValue "toad" :=
    ⟨⟨.negative, by decide, by decide, by decide⟩, Cast.unnamed_iff.2 (by decide)⟩
  have adjective : lexicon.AdjectiveFor cast Int64.minValue "big" :=
    ⟨⟨.neutral, by decide, by decide, by decide⟩, Cast.unnamed_iff.2 (by decide)⟩
  have no_adjective : ∀ word, ¬ lexicon.AdjectiveFor crowded Int64.minValue word := by
    rintro word ⟨⟨polarity, -, hword, -⟩, unnamed⟩
    have big : word = "big" := by cases polarity <;> simp_all [lexicon, WordClass.words]
    subst big
    exact Cast.unnamed_iff.1 unnamed (by decide)
  obtain ⟨answers, fails_iff⟩ := spellInteger_expands valid cast (.ofSeed 7) nonzero
  refine ⟨valid, nonzero, ?_, ?_⟩
  · rcases answers with fails | ⟨phrase, bits, hanswer, -, hbits, hexpands⟩
    · rcases fails_iff.1 fails with nouns | ⟨-, adjectives⟩
      · exact absurd noun (nouns _)
      · exact absurd adjective (adjectives _)
    · refine ⟨phrase, bits, hanswer, fun k => (hbits k).trans ?_, hexpands⟩
      have magnitude : Int64.minValue.toInt.natAbs = 2 ^ 63 := by decide
      rw [magnitude, Nat.testBit_two_pow, decide_eq_true_iff, eq_comm]
  · exact (spellInteger_expands valid crowded (.ofSeed 7) nonzero).2.2 (.inr ⟨by decide, no_adjective⟩)

end Phrase

end Playscript
