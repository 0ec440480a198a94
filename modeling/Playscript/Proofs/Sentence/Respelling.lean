/-
A sentence is understood however it is written.

- `SaidAlike`: two ways to write one sentence: with other blanks where there are some, in other letter case, and with
  another mark at the end;
- `ofText_alike`: the words are the same then, up to the case of ASCII letters;
- `parse_alike`: each reader finds the same in them, and so the parser;
- `parse_respelled`: whatever statement the one is parsed as, the other is.
-/
import Playscript.Proofs.Phrase.Respelling
import Playscript.Proofs.Sentence.Opening
import Playscript.Proofs.Sentence.Overhearing

namespace Playscript

/-! ## The words of a sentence -/

/-- the last character that is not blank is a mark that ends a sentence -/
def EndsMarked (cs front : List Char) (mark : Char) : Prop :=
  isTerminator mark = true ∧ ∃ back, Text.Blank back ∧ cs = front ++ mark :: back

/-- two ways to write one sentence -/
inductive SaidAlike (a b : String) : Prop
  | respelled : Text.Respelled a.toList b.toList → SaidAlike a b
  | marked {front front' : List Char} {mark mark' : Char} : EndsMarked a.toList front mark →
    EndsMarked b.toList front' mark' → Text.Respelled front front' → SaidAlike a b

theorem SaidAlike.symm {a b : String} (h : SaidAlike a b) : SaidAlike b a := by
  cases h with
  | respelled hspelled => exact .respelled hspelled.symm
  | marked ha hb hfront => exact .marked hb ha hfront.symm

/-- the mark at the end of a text is that of every other way to spell it -/
theorem EndsMarked.respelled {cs ds front : List Char} {mark : Char} (h : EndsMarked cs front mark)
    (hspelled : Text.Respelled cs ds) : ∃ front', EndsMarked ds front' mark ∧ Text.Respelled front front' := by
  obtain ⟨hmark, back, hback, rfl⟩ := h
  obtain ⟨front', mark', back', rfl, hfront, hsame, hrest⟩ := hspelled.cut (isBlank_of_isTerminator hmark)
  have caseless : mark.isAlpha = false := by
    simp only [isTerminator, Bool.or_eq_true, beq_iff_eq] at hmark
    rcases hmark with (rfl | rfl) | rfl <;> decide
  obtain rfl : mark' = mark := by
    rw [← Text.toLower_eq_iff caseless, ← hsame, Text.toLower_eq_iff caseless]
  exact ⟨front', ⟨hmark, back', hrest.blank hback, rfl⟩, hfront⟩

namespace Words

/-- a comma at the end of a piece is at its end in either case -/
theorem exists_comma {front q : List Char} (h : Text.foldCase (front ++ [',']) = Text.foldCase q) :
    ∃ front', q = front' ++ [','] ∧ Text.foldCase front = Text.foldCase front' := by
  rw [Text.foldCase_append] at h
  obtain ⟨front', last, rfl, hfront, hlast⟩ := List.map_eq_append_iff.1 h.symm
  obtain ⟨comma, rfl, hcomma⟩ := List.map_eq_singleton_iff.1 hlast
  obtain rfl : comma = ',' := (Text.toLower_eq_iff (by decide)).1 hcomma
  exact ⟨front', rfl, hfront.symm⟩

theorem same_ofList {a b : List Char} (h : Text.foldCase a = Text.foldCase b) :
    Text.same (String.ofList a) (String.ofList b) = true := by
  simpa [Text.same, Text.sameFolded] using h

theorem ofPiece_alike {p q : List Char} (h : Text.foldCase p = Text.foldCase q) : Cased (ofPiece p) (ofPiece q) := by
  by_cases hp : p.getLast? = some ','
  · obtain ⟨front, rfl⟩ := List.getLast?_eq_some_iff.1 hp
    obtain ⟨front', rfl, hfront⟩ := exists_comma h
    have empty : front.isEmpty = front'.isEmpty := by
      cases front <;> cases front' <;> simp_all [Text.foldCase]
    simp only [ofPiece, List.getLast?_concat, if_true, List.dropLast_concat, empty]
    split
    · exact Cased.refl _
    · exact .cons (same_ofList hfront) (Cased.refl _)
  · have hq : ¬ q.getLast? = some ',' := by
      intro hq
      obtain ⟨front, rfl⟩ := List.getLast?_eq_some_iff.1 hq
      obtain ⟨front', rfl, -⟩ := exists_comma h.symm
      exact hp List.getLast?_concat
    rw [ofPiece, ofPiece, if_neg hp, if_neg hq]
    exact .cons (same_ofList h) .nil

/-- **Respelled texts have the same words**, commas apart. -/
theorem flatMap_ofPiece_alike {cs ds : List Char} (h : Text.Respelled cs ds) :
    Cased ((Text.splitBlank cs).flatMap ofPiece) ((Text.splitBlank ds).flatMap ofPiece) := by
  have pieces := Text.splitBlank_respelled h
  generalize Text.splitBlank cs = ps at pieces
  generalize Text.splitBlank ds = qs at pieces
  induction pieces with
  | nil => exact .nil
  | cons hpiece _ ih => exact List.rel_append (ofPiece_alike hpiece) ih

theorem ofText_marked {text : String} {front : List Char} {mark : Char} (h : EndsMarked text.toList front mark) :
    ofText text = (Text.splitBlank front).flatMap ofPiece := by
  obtain ⟨hmark, back, hback, htext⟩ := h
  have parts : front ++ mark :: back = front ++ [mark] ++ back := by simp
  rw [ofText, htext, parts, Text.trimChars_append_blank _ hback,
    Text.trimChars_concat _ (isBlank_of_isTerminator hmark), dropTerminator_concat _ hmark,
    Text.splitBlank_dropBlankFront]

theorem ofText_bare {text : String} (h : ∀ front mark, ¬ EndsMarked text.toList front mark) :
    ofText text = (Text.splitBlank text.toList).flatMap ofPiece := by
  have kept : dropTerminator (Text.trimChars text.toList) = Text.trimChars text.toList := by
    unfold dropTerminator
    cases hlast : (Text.trimChars text.toList).getLast? with
    | none => rfl
    | some mark =>
      obtain ⟨front, hfront⟩ := List.getLast?_eq_some_iff.1 hlast
      obtain ⟨before, behind, -, hbehind, parts⟩ := Text.exists_padding text.toList
      have unmarked : ¬ isTerminator mark = true := fun hmark =>
        h (before ++ front) mark ⟨hmark, behind, hbehind, by rw [parts, hfront]; simp⟩
      simp [unmarked]
  rw [ofText, kept, Text.splitBlank_trimChars]

/-- **A sentence has the same words however it is written.** -/
theorem ofText_alike {a b : String} (h : SaidAlike a b) : Cased (ofText a) (ofText b) := by
  cases h with
  | marked ha hb hfront =>
    rw [ofText_marked ha, ofText_marked hb]
    exact flatMap_ofPiece_alike hfront
  | respelled hspelled =>
    by_cases hmarked : ∃ front mark, EndsMarked a.toList front mark
    · obtain ⟨front, mark, ha⟩ := hmarked
      obtain ⟨front', hb, hfront⟩ := ha.respelled hspelled
      rw [ofText_marked ha, ofText_marked hb]
      exact flatMap_ofPiece_alike hfront
    · have ha : ∀ front mark, ¬ EndsMarked a.toList front mark := fun front mark ha => hmarked ⟨front, mark, ha⟩
      have hb : ∀ front mark, ¬ EndsMarked b.toList front mark := by
        intro front mark hb
        obtain ⟨front', ha, -⟩ := hb.respelled hspelled.symm
        exact hmarked ⟨front', mark, ha⟩
      rw [ofText_bare ha, ofText_bare hb]
      exact flatMap_ofPiece_alike hspelled

end Words

open Words

variable {ws vs : Words} (h : Cased ws vs)
include h

/-! ## Jumps and conditionals -/

namespace Jump

variable (lexicon : Lexicon)

omit h in
theorem parseNumeral_alike {w v : String} (hw : Text.same w v = true) :
    Refines Eq (lexicon.parseNumeral w) (lexicon.parseNumeral v) := by
  have found : lexicon.numerals.findIdx? (fun numeral => Text.same numeral w) =
      lexicon.numerals.findIdx? fun numeral => Text.same numeral v := by
    simp only [Text.same_congr_right hw]
  unfold Lexicon.parseNumeral
  rw [found]
  split
  · exact refines_ok rfl
  · exact refines_error _ _

theorem readNumeral_alike : Refines Alike (readNumeral lexicon ws) (readNumeral lexicon vs) := by
  cases h with
  | nil => exact refines_error _ _
  | @cons w v ws vs hw hws =>
    rw [readNumeral, readNumeral]
    cases hnumeral : lexicon.parseNumeral w with
    | error cause => exact refines_error _ _
    | ok n =>
      obtain ⟨_, hnumeral', rfl⟩ := parseNumeral_alike lexicon hw n hnumeral
      rw [hnumeral']
      exact refines_ok ⟨rfl, hws⟩

theorem readAct_alike : Refines Alike (readAct lexicon ws) (readAct lexicon vs) := by
  unfold readAct
  rcases rel_cases (eat_alike h "act") with ⟨hws, hvs⟩ | ⟨rest, rest', hws, hvs, hrest⟩
  · rw [hws, hvs]
    exact refines_ok ⟨rfl, h⟩
  · rw [hws, hvs]
    refine (readNumeral_alike hrest lexicon).bind ?_
    rintro ⟨act, rest⟩ ⟨act', rest'⟩ ⟨hact, hrest⟩
    obtain rfl : act = act' := hact
    exact (expect_alike hrest JumpError.mismatch ",").bind fun rest rest' hrest => refines_ok ⟨rfl, hrest⟩

theorem read_alike : Refines Alike (read lexicon ws) (read lexicon vs) := by
  unfold read
  rcases rel_cases (orElse_alike (eatPhrase_alike h "let us proceed to") (eatPhrase_alike h "let us return to")) with
    ⟨hws, hvs⟩ | ⟨rest, rest', hws, hvs, hrest⟩
  · rw [hws, hvs]
    exact refines_ok ⟨rfl, h⟩
  · rw [hws, hvs]
    refine (readAct_alike hrest lexicon).bind ?_
    rintro ⟨act, rest⟩ ⟨act', rest'⟩ ⟨hact, hrest⟩
    obtain rfl : act = act' := hact
    refine (expect_alike hrest JumpError.mismatch "scene").bind fun rest rest' hrest => ?_
    refine (readNumeral_alike hrest lexicon).bind ?_
    rintro ⟨scene, rest⟩ ⟨scene', rest'⟩ ⟨hscene, hrest⟩
    obtain rfl : scene = scene' := hscene
    exact refines_ok ⟨rfl, hrest⟩

omit h in
theorem readMarker_bare {ws : Words} (h : ∀ opening word rest, ws ≠ opening :: word :: "," :: rest) :
    readMarker ws = (none, ws) := by
  unfold readMarker
  split
  · exact absurd rfl (h _ _ _)
  · rfl

omit h in
/-- a comma has but one case -/
theorem cased_comma {opening word : String} {rest : Words} (h : Cased (opening :: word :: "," :: rest) vs) :
    ∃ opening' word' rest', vs = opening' :: word' :: "," :: rest' ∧ Text.same opening opening' = true ∧
      Text.same word word' = true ∧ Cased rest rest' := by
  obtain ⟨opening', _, hopening, hafter, rfl⟩ := List.forall₂_cons_left_iff.1 h
  obtain ⟨word', _, hword, hcommas, rfl⟩ := List.forall₂_cons_left_iff.1 hafter
  obtain ⟨comma, rest', hcomma, hrest, rfl⟩ := List.forall₂_cons_left_iff.1 hcommas
  have folded : Text.foldCase ([] ++ [',']) = Text.foldCase comma.toList := Text.sameFolded_iff.1 hcomma
  obtain ⟨front, hfront, hempty⟩ := exists_comma folded
  have empty : front = [] := List.map_eq_nil_iff.1 hempty.symm
  obtain rfl : comma = "," := by
    rw [← String.toList_inj, hfront, empty]
    rfl
  exact ⟨opening', word', rest', rfl, hopening, hword, hrest⟩

/-- **A sentence is conditional in either case or in neither.** -/
theorem readMarker_alike : Alike (readMarker ws) (readMarker vs) := by
  by_cases hcomma : ∃ opening word rest, ws = opening :: word :: "," :: rest
  · obtain ⟨opening, word, rest, rfl⟩ := hcomma
    obtain ⟨opening', word', rest', rfl, hopening, hword, hrest⟩ := cased_comma h
    simp only [readMarker, Text.same_congr hopening, Text.same_congr hword]
    split
    · split
      · exact ⟨rfl, hrest⟩
      · split
        · exact ⟨rfl, hrest⟩
        · exact ⟨rfl, h⟩
    · exact ⟨rfl, h⟩
  · have hws : ∀ opening word rest, ws ≠ opening :: word :: "," :: rest := fun opening word rest hws =>
      hcomma ⟨opening, word, rest, hws⟩
    have hvs : ∀ opening word rest, vs ≠ opening :: word :: "," :: rest := by
      rintro opening word rest rfl
      obtain ⟨opening', word', rest', hws, -⟩ := cased_comma h.symm
      exact hcomma ⟨opening', word', rest', hws⟩
    rw [readMarker_bare hws, readMarker_bare hvs]
    exact ⟨rfl, h⟩

end Jump

namespace Sentence

theorem expect_alike (word : String) : Refines Cased (expect word ws) (expect word vs) :=
  reading_refines (Words.expect_alike h SentenceError.mismatch word)

theorem expectEnd_alike : Refines (fun _ _ => True) (expectEnd ws) (expectEnd vs) :=
  reading_refines (Words.expectEnd_alike h SentenceError.mismatch)

theorem readPossessive_alike : Refines Cased (readPossessive ws) (readPossessive vs) := by
  unfold readPossessive
  rcases rel_cases (orElse_alike (eat_alike h "your") (eat_alike h "thy")) with
    ⟨hws, hvs⟩ | ⟨rest, rest', hws, hvs, hrest⟩
  · rw [hws]
    exact refines_error _ _
  · rw [hws, hvs]
    exact refines_ok hrest

theorem readTransfer?_alike : Option.Rel (Refines Alike) (readTransfer? ws) (readTransfer? vs) := by
  unfold readTransfer?
  rcases rel_cases (eat_alike h "open") with ⟨hws, hvs⟩ | ⟨rest, rest', hws, hvs, hrest⟩
  case inr =>
    rw [hws, hvs]
    refine .some ((readPossessive_alike hrest).bind fun rest rest' hrest => ?_)
    rcases rel_cases (eat_alike hrest "mind") with ⟨hws, hvs⟩ | ⟨rest, rest', hws, hvs, hrest⟩
    · rw [hws, hvs]
      exact (expect_alike ‹_› "heart").bind fun rest rest' hrest => refines_ok ⟨rfl, hrest⟩
    · rw [hws, hvs]
      exact refines_ok ⟨rfl, hrest⟩
  rw [hws, hvs]
  rcases rel_cases (eatPhrase_alike h "listen to") with ⟨hws, hvs⟩ | ⟨rest, rest', hws, hvs, hrest⟩
  case inr =>
    rw [hws, hvs]
    refine .some ((readPossessive_alike hrest).bind fun rest rest' hrest => ?_)
    exact (expect_alike hrest "heart").bind fun rest rest' hrest => refines_ok ⟨rfl, hrest⟩
  rw [hws, hvs]
  rcases rel_cases (eat_alike h "speak") with ⟨hws, hvs⟩ | ⟨rest, rest', hws, hvs, hrest⟩
  case inr =>
    rw [hws, hvs]
    refine .some ((readPossessive_alike hrest).bind fun rest rest' hrest => ?_)
    exact (expect_alike hrest "mind").bind fun rest rest' hrest => refines_ok ⟨rfl, hrest⟩
  rw [hws, hvs]
  exact .none

section Vocabulary

variable (vocabulary : Vocabulary)

theorem readValue_alike : Refines Alike (readValue vocabulary ws) (readValue vocabulary vs) :=
  reading_refines (Phrase.readValue_alike h vocabulary)

theorem readLastValue_alike : Refines Eq (readLastValue vocabulary ws) (readLastValue vocabulary vs) := by
  refine (readValue_alike h vocabulary).bind ?_
  rintro ⟨value, rest⟩ ⟨value', rest'⟩ ⟨hvalue, hrest⟩
  exact (expectEnd_alike hrest).bind fun _ _ _ => refines_ok hvalue

theorem readAdjective_alike : Refines Cased (readAdjective vocabulary ws) (readAdjective vocabulary vs) := by
  cases h with
  | nil => exact refines_error _ _
  | @cons w v ws vs hw hws =>
    rw [readAdjective, readAdjective, Lexicon.adjectivePolarity, Lexicon.classify_congr hw, Lexicon.adjectivePolarity]
    split
    · exact refines_ok hws
    · exact refines_error _ _

theorem readLikeness_alike : Refines Cased (readLikeness vocabulary ws) (readLikeness vocabulary vs) :=
  (readAdjective_alike h vocabulary).bind fun _ _ hrest => expect_alike hrest "as"

theorem readAssignment_alike : Refines Eq (readAssignment vocabulary ws) (readAssignment vocabulary vs) := by
  have assigned : ∀ {ws vs}, Cased ws vs → Refines Eq
      (readLastValue vocabulary ws >>= fun value => .ok (Statement.assign value))
      (readLastValue vocabulary vs >>= fun value => .ok (Statement.assign value)) := fun h =>
    (readLastValue_alike h vocabulary).bind fun value value' hvalue => refines_ok (congrArg Statement.assign hvalue)
  unfold readAssignment
  rcases rel_cases (eat_alike h "as") with ⟨hws, hvs⟩ | ⟨rest, rest', hws, hvs, hrest⟩
  · rw [hws, hvs]
    exact assigned h
  · rw [hws, hvs]
    exact (readLikeness_alike hrest vocabulary).bind fun _ _ hrest => assigned hrest

theorem readComparative_alike : Refines Alike (readComparative vocabulary ws) (readComparative vocabulary vs) := by
  have polarity : ws.head?.bind vocabulary.lexicon.comparativePolarity =
      vs.head?.bind vocabulary.lexicon.comparativePolarity := by
    cases h with
    | nil => rfl
    | cons hw _ =>
      simp only [List.head?_cons, Option.bind_some, Lexicon.comparativePolarity, Lexicon.classify_congr hw]
  unfold readComparative
  rw [polarity]
  split
  · exact (expect_alike h.tail "than").bind fun _ _ hrest => refines_ok ⟨rfl, hrest⟩
  · exact refines_error _ _

theorem readRelation_alike : Refines Alike (readRelation vocabulary ws) (readRelation vocabulary vs) := by
  unfold readRelation
  rcases rel_cases (eat_alike h "as") with ⟨hws, hvs⟩ | ⟨rest, rest', hws, hvs, hrest⟩
  · rw [hws, hvs]
    exact readComparative_alike h vocabulary
  · rw [hws, hvs]
    exact (readLikeness_alike hrest vocabulary).bind fun _ _ hrest => refines_ok ⟨rfl, hrest⟩

theorem readQuestion_alike (lhs : Value) :
    Refines Eq (readQuestion vocabulary lhs ws) (readQuestion vocabulary lhs vs) := by
  have compared : ∀ (negated : Bool) {ws vs}, Cased ws vs → Refines Eq
      (readRelation vocabulary ws >>= fun found => readLastValue vocabulary found.2 >>= fun rhs =>
        .ok (Statement.compare ⟨found.1, negated, lhs, rhs⟩))
      (readRelation vocabulary vs >>= fun found => readLastValue vocabulary found.2 >>= fun rhs =>
        .ok (Statement.compare ⟨found.1, negated, lhs, rhs⟩)) := by
    intro negated ws vs h
    refine (readRelation_alike h vocabulary).bind ?_
    rintro ⟨relation, rest⟩ ⟨relation', rest'⟩ ⟨hrelation, hrest⟩
    obtain rfl : relation = relation' := hrelation
    refine (readLastValue_alike hrest vocabulary).bind ?_
    rintro rhs _ rfl
    exact refines_ok rfl
  unfold readQuestion
  rcases rel_cases (eat_alike h "not") with ⟨hws, hvs⟩ | ⟨rest, rest', hws, hvs, hrest⟩
  · rw [hws, hvs]
    exact compared false h
  · rw [hws, hvs]
    exact compared true hrest

/-! ## Clauses -/

/-- the first two words are the same in either case, if there are any -/
theorem same_first_two :
    Text.same (ws.headD "") (vs.headD "") = true ∧ Text.same (ws.getD 1 "") (vs.getD 1 "") = true := by
  cases h with
  | nil => exact ⟨Text.same_refl _, Text.same_refl _⟩
  | cons hfirst hrest =>
    cases hrest with
    | nil => exact ⟨hfirst, Text.same_refl _⟩
    | cons hsecond _ => exact ⟨hfirst, hsecond⟩

theorem opensAssignment_alike : opensAssignment vocabulary ws = opensAssignment vocabulary vs := by
  obtain ⟨hfirst, hsecond⟩ := same_first_two h
  simp only [opensAssignment, subjectPronoun_congr hfirst, Text.same_congr_right hsecond]

theorem opensQuestion_alike : opensQuestion vocabulary ws = opensQuestion vocabulary vs := by
  obtain ⟨hfirst, hsecond⟩ := same_first_two h
  simp only [opensQuestion, verbPronoun_congr hfirst, Text.same_congr_right hsecond]

theorem parseClause_alike (a b : String) :
    Refines Eq (parseClause vocabulary a ws) (parseClause vocabulary b vs) := by
  unfold parseClause
  rcases rel_cases (eat_alike h "recall") with ⟨hws, hvs⟩ | ⟨rest, rest', hws, hvs, -⟩
  case inr =>
    rw [hws, hvs]
    exact refines_ok rfl
  rw [hws, hvs]
  rcases rel_cases (eat_alike h "remember") with ⟨hws, hvs⟩ | ⟨rest, rest', hws, hvs, hrest⟩
  case inr =>
    rw [hws, hvs]
    exact (readLastValue_alike hrest vocabulary).bind fun value value' hvalue =>
      refines_ok (congrArg Statement.remember hvalue)
  rw [hws, hvs, opensAssignment_alike h vocabulary, opensQuestion_alike h vocabulary]
  cases opensAssignment vocabulary vs with
  | true => exact readAssignment_alike (List.forall₂_drop 2 h) vocabulary
  | false =>
  cases opensQuestion vocabulary vs with
  | some role => exact readQuestion_alike (List.forall₂_drop 2 h) vocabulary _
  | none =>
  rcases rel_cases (eat_alike h "is") with ⟨hws, hvs⟩ | ⟨rest, rest', hws, hvs, hrest⟩
  · rw [hws]
    exact refines_error _ _
  · rw [hws, hvs]
    refine (readValue_alike hrest vocabulary).bind ?_
    rintro ⟨lhs, rest⟩ ⟨lhs', rest'⟩ ⟨hlhs, hrest⟩
    obtain rfl : lhs = lhs' := hlhs
    exact readQuestion_alike hrest vocabulary lhs

theorem parseSimple_alike (a b : String) :
    Refines Eq (parseSimple vocabulary a ws) (parseSimple vocabulary b vs) := by
  refine (reading_refines (Jump.read_alike h vocabulary.lexicon)).bind ?_
  rintro ⟨target, rest⟩ ⟨target', rest'⟩ ⟨htarget, hrest⟩
  obtain rfl : target = target' := htarget
  cases target with
  | some target => exact (expectEnd_alike hrest).bind fun _ _ _ => refines_ok rfl
  | none =>
    dsimp only
    rcases rel_cases (readTransfer?_alike hrest) with ⟨hws, hvs⟩ | ⟨answer, answer', hws, hvs, hanswer⟩
    · rw [hws, hvs]
      exact parseClause_alike hrest vocabulary a b
    · rw [hws, hvs]
      refine hanswer.bind ?_
      rintro ⟨statement, rest⟩ ⟨statement', rest'⟩ ⟨hstatement, hrest⟩
      exact (expectEnd_alike hrest).bind fun _ _ _ => refines_ok hstatement

end Vocabulary

omit h

theorem parse_alike (vocabulary : Vocabulary) {a b : String} (h : SaidAlike a b) :
    Refines Eq (parse vocabulary a) (parse vocabulary b) := by
  have opening := Jump.readMarker_alike (ofText_alike h)
  unfold parse
  generalize Jump.readMarker (ofText a) = found at opening ⊢
  generalize Jump.readMarker (ofText b) = found' at opening ⊢
  obtain ⟨polarity, ws⟩ := found
  obtain ⟨polarity', vs⟩ := found'
  obtain ⟨hpolarity, hrest⟩ := opening
  obtain rfl : polarity = polarity' := hpolarity
  cases polarity with
  | none => exact parseSimple_alike hrest vocabulary a b
  | some polarity =>
    exact (parseSimple_alike hrest vocabulary a b).bind fun body body' hbody =>
      refines_ok (congrArg (Statement.conditional polarity) hbody)

/-- **Parsing ignores case, spacing and the mark at the end.** Two ways to write one sentence are both parsed, as the
same statement, or neither is, whatever the lexicon and the cast. -/
theorem parse_respelled (lexicon : Lexicon) (cast : Cast) {a b : String} (alike : SaidAlike a b)
    (statement : Statement) :
    parse (Vocabulary.of lexicon cast) a = .ok statement ↔ parse (Vocabulary.of lexicon cast) b = .ok statement := by
  constructor
  · intro hparse
    obtain ⟨_, hparse', rfl⟩ := parse_alike (Vocabulary.of lexicon cast) alike statement hparse
    exact hparse'
  · intro hparse
    obtain ⟨_, hparse', rfl⟩ := parse_alike (Vocabulary.of lexicon cast) alike.symm statement hparse
    exact hparse'

/-- a question in capitals, with a tab and more spaces in it, and with another mark at its end -/
theorem parse_respelled_question :
    let lexicon : Lexicon := ⟨⟨["cat"], [], ["pig"]⟩, ⟨[], ["big"], []⟩, ⟨["better"], ["worse"]⟩,
      ⟨[⟨"I", "me", "myself", "am"⟩], [⟨"you", "you", "yourself", "are"⟩]⟩, ["I"], ["Romeo"]⟩
    SaidAlike "Am I as big as a pig?" "AM   I as Big as\ta PIG!" ∧
      parse (Vocabulary.of lexicon ⟨[], []⟩) "AM   I as Big as\ta PIG!" =
        .ok (.compare ⟨.equal, false, .role .speaker, .constant (-1)⟩) := by
  intro lexicon
  let front := "Am".toList ++ ([' '] ++ ("I as big as".toList ++ ([' '] ++ "a pig".toList)))
  let front' := "AM".toList ++ ([' ', ' ', ' '] ++ ("I as Big as".toList ++ (['\t'] ++ "a PIG".toList)))
  have spelled : Text.Respelled front front' := by
    refine (Text.Respelled.of_foldCase (by decide)).append (.gap (by decide) (by decide) (by decide) (by decide) ?_)
    refine (Text.Respelled.of_foldCase (by decide)).append (.gap (by decide) (by decide) (by decide) (by decide) ?_)
    exact .of_foldCase (by decide)
  have marked : EndsMarked "Am I as big as a pig?".toList front '?' := ⟨by decide, [], by decide, by decide⟩
  have marked' : EndsMarked "AM   I as Big as\ta PIG!".toList front' '!' := ⟨by decide, [], by decide, by decide⟩
  have alike := SaidAlike.marked marked marked' spelled
  have asked : parse (Vocabulary.of lexicon ⟨[], []⟩) "Am I as big as a pig?" =
      .ok (.compare ⟨.equal, false, .role .speaker, .constant (-1)⟩) := eq_ok_of_toOption (by decide)
  exact ⟨alike, (parse_respelled lexicon ⟨[], []⟩ alike _).1 asked⟩

end Sentence

end Playscript
