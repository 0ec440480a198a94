/-
Words in other letter case are read alike.

- `Words.Alike`: the same answer, with the same words left over up to the case of ASCII letters;
- `eat_alike`, `eatLongest_alike`: the same fixed words and the same names are found in either case;
- `readValue_alike`: and so the same values, though a phrase keeps its pronouns as they are written.
-/
import Playscript.Proofs.Phrase.Delimiting
import Playscript.Proofs.Text.Respelling

namespace Playscript

/-- both options are empty, or neither is -/
theorem rel_cases {α β : Type} {R : α → β → Prop} {x : Option α} {y : Option β} (h : Option.Rel R x y) :
    (x = none ∧ y = none) ∨ ∃ a b, x = some a ∧ y = some b ∧ R a b := by
  cases h with
  | none => exact .inl ⟨rfl, rfl⟩
  | some hab => exact .inr ⟨_, _, rfl, rfl, hab⟩

namespace Words

/-! ## Fixed words and names -/

theorem Cased.symm {ws vs : Words} (h : Cased ws vs) : Cased vs ws := by
  induction h with
  | nil => exact .nil
  | cons hw _ ih => exact .cons (Text.same_comm _ _ ▸ hw) ih

/-- the same answer, and the same words left up to letter case -/
def Alike {α : Type} (a b : α × Words) : Prop := a.1 = b.1 ∧ Cased a.2 b.2

section Cased

variable {ws vs : Words} (h : Cased ws vs)
include h

theorem Cased.tail : Cased ws.tail vs.tail := by
  cases h with
  | nil => exact .nil
  | cons _ hws => exact hws

theorem eat_alike (word : String) : Option.Rel Cased (eat word ws) (eat word vs) := by
  cases h with
  | nil => exact .none
  | @cons w v ws vs hw hws =>
    have same := Text.same_congr hw word
    by_cases hv : Text.same v word = true
    · rw [eat_eq_some (same.trans hv), eat_eq_some hv]
      exact .some hws
    · rw [Bool.not_eq_true] at hv
      rw [eat_eq_none (same.trans hv), eat_eq_none hv]
      exact .none

theorem eatAll_alike (parts : List String) : Option.Rel Cased (eatAll parts ws) (eatAll parts vs) := by
  induction parts generalizing ws vs with
  | nil => exact .some h
  | cons part parts ih =>
    rw [eatAll, eatAll]
    rcases rel_cases (eat_alike h part) with ⟨hws, hvs⟩ | ⟨rest, rest', hws, hvs, hrest⟩
    · rw [hws, hvs]
      exact .none
    · rw [hws, hvs]
      exact ih hrest

theorem eatPhrase_alike (phrase : String) : Option.Rel Cased (eatPhrase phrase ws) (eatPhrase phrase vs) := by
  unfold eatPhrase
  cases Text.words phrase with
  | nil => exact .none
  | cons part parts => exact eatAll_alike h (part :: parts)

theorem longer_alike {best best' : Option (String × Words)} (hbest : Option.Rel Alike best best') (name : String) :
    Option.Rel Alike (longer ws best name) (longer vs best' name) := by
  unfold longer
  rcases rel_cases (eatPhrase_alike h name) with ⟨hws, hvs⟩ | ⟨rest, rest', hws, hvs, hrest⟩
  · rw [hws, hvs]
    exact hbest
  · rw [hws, hvs]
    cases hbest with
    | none => exact .some ⟨rfl, hrest⟩
    | @some found found' hfound =>
      obtain ⟨other, left⟩ := found
      obtain ⟨other', left'⟩ := found'
      dsimp only
      rw [hrest.length_eq, hfound.2.length_eq]
      split
      · exact .some ⟨rfl, hrest⟩
      · exact .some hfound

/-- **The same name is found in either case.** -/
theorem eatLongest_alike (names : List String) : Option.Rel Alike (eatLongest names ws) (eatLongest names vs) := by
  have fold : ∀ best best', Option.Rel Alike best best' →
      Option.Rel Alike (names.foldl (longer ws) best) (names.foldl (longer vs) best') := by
    induction names with
    | nil => exact fun _ _ hbest => hbest
    | cons name names ih => exact fun _ _ hbest => ih _ _ (longer_alike h hbest name)
  exact fold none none .none

theorem expect_alike {ε : Type} (wrap : Mismatch → ε) (word : String) :
    Refines Cased (expect wrap word ws) (expect wrap word vs) := by
  unfold expect
  rcases rel_cases (eat_alike h word) with ⟨hws, hvs⟩ | ⟨rest, rest', hws, hvs, hrest⟩
  · rw [hws]
    exact refines_error _ _
  · rw [hws, hvs]
    exact refines_ok hrest

theorem expectEnd_alike {ε : Type} (wrap : Mismatch → ε) :
    Refines (fun _ _ => True) (expectEnd wrap ws) (expectEnd wrap vs) := by
  cases h with
  | nil => exact refines_ok trivial
  | cons => exact refines_error _ _

end Cased

theorem orElse_alike {x x' y y' : Option Words} (hx : Option.Rel Cased x x') (hy : Option.Rel Cased y y') :
    Option.Rel Cased (x <|> y) (x' <|> y') := by
  cases hx with
  | none => exact hy
  | some hrest => exact .some hrest

end Words

/-! ## Noun phrases -/

theorem Lexicon.classify_congr {w v : String} (h : Text.same w v = true) (lexicon : Lexicon) :
    lexicon.classify w = lexicon.classify v := by
  rw [classify, classify, Text.lowercase_congr h]

namespace Phrase

open Words

variable {ws vs : Words} (h : Cased ws vs)
include h

theorem eatOpening_alike {Op : Type} (opening : Op → String) (ops : List Op) :
    Option.Rel Alike (eatOpening opening ops ws) (eatOpening opening ops vs) := by
  unfold eatOpening
  induction ops with
  | nil => exact .none
  | cons op ops ih =>
    rw [List.findSome?_cons, List.findSome?_cons]
    rcases rel_cases (eatPhrase_alike h (opening op)) with ⟨hws, hvs⟩ | ⟨rest, rest', hws, hvs, hrest⟩
    · rw [hws, hvs]
      exact ih
    · rw [hws, hvs]
      exact .some ⟨rfl, hrest⟩

theorem readNoun_alike (lexicon : Lexicon) (bare : Bool) :
    Refines Alike (readNoun lexicon bare ws) (readNoun lexicon bare vs) := by
  induction h generalizing bare with
  | nil => exact refines_error _ _
  | @cons w v ws vs hw hws ih =>
    unfold readNoun
    rw [Lexicon.classify_congr hw, Text.lowercase_congr hw]
    split
    · refine (ih false).bind ?_
      rintro ⟨noun, rest⟩ ⟨noun', rest'⟩ ⟨hnoun, hrest⟩
      obtain rfl : noun = noun' := hnoun
      exact refines_ok ⟨rfl, hrest⟩
    · exact refines_ok ⟨rfl, hws⟩
    · exact refines_error _ _

theorem eatArticle_alike : Alike (eatArticle ws) (eatArticle vs) := by
  have found : articles.find? (fun article => (eat article ws).isSome) =
      articles.find? fun article => (eat article vs).isSome := by
    congr 1
    funext article
    rcases rel_cases (eat_alike h article) with ⟨hws, hvs⟩ | ⟨rest, rest', hws, hvs, -⟩ <;> simp [hws, hvs]
  unfold eatArticle
  rw [found]
  split
  · exact ⟨rfl, h.tail⟩
  · exact ⟨rfl, h⟩

/-- phrases that mean the same, and the same words left -/
def MeanAlike (vocabulary : Vocabulary) (a b : NounPhrase × Words) : Prop :=
  meaning vocabulary a.1 = meaning vocabulary b.1 ∧ Cased a.2 b.2

variable (vocabulary : Vocabulary)

/-- a pronoun is kept as it is written, but means the same partner in either case -/
theorem readPlain_alike :
    Refines (MeanAlike vocabulary) (readPlain vocabulary.lexicon ws) (readPlain vocabulary.lexicon vs) := by
  have noun : Refines (MeanAlike vocabulary)
      (readNoun vocabulary.lexicon (eatArticle ws).1 (eatArticle ws).2 >>= fun found =>
        .ok (NounPhrase.noun found.1.1 found.1.2, found.2))
      (readNoun vocabulary.lexicon (eatArticle vs).1 (eatArticle vs).2 >>= fun found =>
        .ok (NounPhrase.noun found.1.1 found.1.2, found.2)) := by
    obtain ⟨hbare, hrest⟩ := eatArticle_alike h
    rw [hbare]
    refine (readNoun_alike hrest vocabulary.lexicon _).bind ?_
    rintro ⟨noun, rest⟩ ⟨noun', rest'⟩ ⟨hnoun, hrest⟩
    obtain rfl : noun = noun' := hnoun
    exact refines_ok ⟨rfl, hrest⟩
  unfold readPlain
  cases h with
  | nil => exact noun
  | @cons w v ws vs hw hws =>
    have person : vocabulary.lexicon.personOf w = vocabulary.lexicon.personOf v := by
      rw [Lexicon.personOf, Lexicon.personOf, Lexicon.classify_congr hw]
    rw [List.head?_cons, List.head?_cons, Option.filter_some, Option.filter_some, person]
    by_cases hperson : (vocabulary.lexicon.personOf v).isSome = true
    · rw [if_pos hperson, if_pos hperson]
      obtain ⟨role, hrole⟩ := Option.isSome_iff_exists.1 hperson
      refine refines_ok ⟨?_, hws⟩
      simp only [meaning, person, hrole]
    · rw [if_neg hperson, if_neg hperson]
      exact noun

theorem readWithin_alike (depth : Nat) :
    Refines (MeanAlike vocabulary) (readWithin vocabulary depth ws) (readWithin vocabulary depth vs) := by
  induction depth generalizing ws vs with
  | zero => exact refines_error _ _
  | succ depth ih =>
    unfold readWithin
    rcases rel_cases (orElse_alike (eat_alike h "nothing") (eat_alike h "zero")) with
      ⟨hws, hvs⟩ | ⟨rest, rest', hws, hvs, hrest⟩
    case inr =>
      rw [hws, hvs]
      exact refines_ok ⟨rfl, hrest⟩
    rw [hws, hvs]
    rcases rel_cases (eat_alike h "twice") with ⟨hws, hvs⟩ | ⟨rest, rest', hws, hvs, hrest⟩
    case inr =>
      rw [hws, hvs]
      refine (ih hrest).bind fun operand operand' hoperand => refines_ok ⟨?_, hoperand.2⟩
      simp only [meaning, hoperand.1]
    rw [hws, hvs]
    rcases rel_cases (eatOpening_alike h BinaryOp.opening binaryOps) with
      ⟨hws, hvs⟩ | ⟨⟨op, rest⟩, ⟨op', rest'⟩, hws, hvs, hop, hrest⟩
    case inr =>
      obtain rfl : op = op' := hop
      rw [hws, hvs]
      refine (ih hrest).bind fun lhs lhs' hlhs => ?_
      refine (expect_alike hlhs.2 PhraseError.mismatch "and").bind fun rest rest' hrest => ?_
      refine (ih hrest).bind fun rhs rhs' hrhs => refines_ok ⟨?_, hrhs.2⟩
      simp only [meaning, hlhs.1, hrhs.1]
    rw [hws, hvs]
    rcases rel_cases (eatOpening_alike h UnaryOp.opening unaryOps) with
      ⟨hws, hvs⟩ | ⟨⟨op, rest⟩, ⟨op', rest'⟩, hws, hvs, hop, hrest⟩
    case inr =>
      obtain rfl : op = op' := hop
      rw [hws, hvs]
      refine (ih hrest).bind fun operand operand' hoperand => refines_ok ⟨?_, hoperand.2⟩
      simp only [meaning, hoperand.1]
    rw [hws, hvs]
    rcases rel_cases (eatLongest_alike h vocabulary.cast.names) with
      ⟨hws, hvs⟩ | ⟨⟨name, rest⟩, ⟨name', rest'⟩, hws, hvs, hname, hrest⟩
    case inr =>
      obtain rfl : name = name' := hname
      rw [hws, hvs]
      exact refines_ok ⟨rfl, hrest⟩
    rw [hws, hvs]
    exact readPlain_alike h vocabulary

/-- **A value is the same in either case**, and so are the words after it. -/
theorem readValue_alike : Refines Alike (readValue vocabulary ws) (readValue vocabulary vs) := by
  unfold readValue read
  rw [h.length_eq]
  refine (readWithin_alike h vocabulary _).bind ?_
  rintro ⟨phrase, rest⟩ ⟨phrase', rest'⟩ ⟨hmeaning, hrest⟩
  dsimp only at hmeaning ⊢
  rw [hmeaning]
  cases meaning vocabulary phrase' with
  | ok value => exact refines_ok ⟨rfl, hrest⟩
  | error cause => exact refines_error _ _

end Phrase

end Playscript
