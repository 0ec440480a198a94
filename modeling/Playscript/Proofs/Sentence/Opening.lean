/-
How a sentence begins.

A sentence that becomes part of a conditional loses its capital letter. `Begins sentence first rest` says that the words
of a sentence are `first` and `rest`, and that without the capital the first word stays the same up to letter case. A
parser looks at the first word in no other way (`parseSimple_congr`), so a conditional is parsed as its body is
(`parse_conditional`).
-/
import Playscript.Sentence.Composing
import Playscript.Sentence.Parsing
import Playscript.Proofs.Text.Eating

namespace Playscript

theorem Text.lowercaseFirst_append {s : String} (h : s ≠ "") (t : String) :
    lowercaseFirst (s ++ t) = lowercaseFirst s ++ t := by
  have hne : s.toList ≠ [] := fun e => h (String.toList_inj.1 (by simpa using e))
  unfold lowercaseFirst
  rw [String.toList_append]
  cases hs : s.toList with
  | nil => exact absurd hs hne
  | cons c cs => simp [← String.toList_inj]

namespace Sentence

/-- the words of a sentence, and that its first word stays the same without its capital letter -/
def Begins (sentence first : String) (rest : Words) : Prop :=
  ∃ body mark lowered, ∃ c, sentence = body ++ mark ∧ mark.toList = [c] ∧ isTerminator c = true ∧ body ≠ "" ∧
    Words.ofBody body = first :: rest ∧ Words.ofBody (Text.lowercaseFirst body) = lowered :: rest ∧
    Text.same lowered first = true

theorem Begins.ofText {sentence first : String} {rest : Words} (h : Begins sentence first rest) :
    Words.ofText sentence = first :: rest := by
  obtain ⟨body, mark, lowered, c, rfl, hmark, hc, -, hbody, -⟩ := h
  rw [Words.ofText_terminated body hmark hc, hbody]

/-- the sentence made of some fixed words, a text after them, and a mark -/
theorem begins_append {lead first lowered : String} {more : Words} (hlead : lead ≠ "")
    (hwords : Words.ofBody lead = first :: more) (hlowered : Words.ofBody (Text.lowercaseFirst lead) = lowered :: more)
    (hsame : Text.same lowered first = true) (tail : String) {mark : String} {c : Char} (hmark : mark.toList = [c])
    (hc : isTerminator c = true) : Begins (lead ++ " " ++ tail ++ mark) first (more ++ Words.ofBody tail) := by
  refine ⟨lead ++ " " ++ tail, mark, lowered, c, rfl, hmark, hc, ?_, ?_, ?_, hsame⟩
  · intro e
    have : lead.toList = [] := by
      have h := congrArg String.toList e
      simp at h
    exact hlead (String.toList_inj.1 (by simpa using this))
  · rw [Words.ofBody_append_space, hwords, List.cons_append]
  · rw [String.append_assoc, Text.lowercaseFirst_append hlead, ← String.append_assoc, Words.ofBody_append_space,
      hlowered, List.cons_append]

/-! ## The first word -/

theorem subjectPronoun_congr {a b : String} (h : Text.same a b = true) (lexicon : Lexicon) :
    lexicon.subjectPronoun a = lexicon.subjectPronoun b := by
  unfold Lexicon.subjectPronoun
  congr 1
  funext ⟨role, forms⟩
  exact Text.same_congr_right h forms.subject

theorem verbPronoun_congr {a b : String} (h : Text.same a b = true) (lexicon : Lexicon) :
    lexicon.verbPronoun a = lexicon.verbPronoun b := by
  unfold Lexicon.verbPronoun
  congr 1
  funext ⟨role, forms⟩
  exact Text.same_congr_right h forms.verb

theorem readTransfer?_congr {a b : String} (h : Text.same a b = true) (ws : Words) :
    readTransfer? (a :: ws) = readTransfer? (b :: ws) := by
  simp only [readTransfer?, Words.eat_congr h, Words.eatPhrase_congr h]

theorem parseClause_congr {a b : String} (h : Text.same a b = true) (vocabulary : Vocabulary) (sentence : String)
    (ws : Words) : parseClause vocabulary sentence (a :: ws) = parseClause vocabulary sentence (b :: ws) := by
  simp only [parseClause, opensAssignment, opensQuestion, List.headD_cons, Words.eat_congr h, subjectPronoun_congr h,
    verbPronoun_congr h, List.getD_cons_succ, List.drop_succ_cons]

/-- **The first word counts up to letter case only.** -/
theorem parseSimple_congr {a b : String} (h : Text.same a b = true) (vocabulary : Vocabulary) (sentence : String)
    (ws : Words) : parseSimple vocabulary sentence (a :: ws) = parseSimple vocabulary sentence (b :: ws) := by
  unfold parseSimple Jump.read
  rw [Words.eatPhrase_congr h, Words.eatPhrase_congr h]
  cases (Words.eatPhrase "let us proceed to" (b :: ws) <|> Words.eatPhrase "let us return to" (b :: ws)) with
  | none =>
    simp only [reading, bind, Except.bind]
    rw [readTransfer?_congr h, parseClause_congr h]
  | some rest => rfl

/-- a sentence that opens with none of the words of jumps, input and output is a clause -/
theorem parseSimple_clause {first : String} (h : ∀ word ∈ ["let", "open", "listen", "speak"], Text.same first word = false)
    (vocabulary : Vocabulary) (sentence : String) (ws : Words) :
    parseSimple vocabulary sentence (first :: ws) = parseClause vocabulary sentence (first :: ws) := by
  have hlet : Text.same first "let" = false := h _ (by simp)
  have noJump : Jump.read vocabulary.lexicon (first :: ws) = .ok (none, first :: ws) := by
    unfold Jump.read
    rw [Words.eatPhrase_eq_none (show Text.same first (Words.initial "let us proceed to") = false from hlet),
      Words.eatPhrase_eq_none (show Text.same first (Words.initial "let us return to") = false from hlet)]
    rfl
  have noTransfer : readTransfer? (first :: ws) = none := by
    unfold readTransfer?
    rw [Words.eat_eq_none (h "open" (by simp)),
      Words.eatPhrase_eq_none (show Text.same first (Words.initial "listen to") = false from h "listen" (by simp)),
      Words.eat_eq_none (h "speak" (by simp))]
  simp only [parseSimple, noJump, reading, bind, Except.bind, noTransfer]

/-! ## Whole sentences -/

/-- a sentence that does not open with "if" is no conditional -/
theorem parse_of_ofText {sentence first : String} {rest : Words} (h : Words.ofText sentence = first :: rest)
    (hif : Text.same first "if" = false) (vocabulary : Vocabulary) :
    parse vocabulary sentence = parseSimple vocabulary sentence (first :: rest) := by
  have noMarker : Jump.readMarker (first :: rest) = (none, first :: rest) := by
    unfold Jump.readMarker
    split
    · rename_i heq
      cases heq
      simp [hif]
    · rfl
  simp only [parse, h, noMarker]

theorem parse_of_begins {sentence first : String} {rest : Words} (h : Begins sentence first rest)
    (hif : Text.same first "if" = false) (vocabulary : Vocabulary) :
    parse vocabulary sentence = parseSimple vocabulary sentence (first :: rest) :=
  parse_of_ofText h.ofText hif vocabulary

/-- a conditional is parsed as its body is -/
theorem parse_conditional {sentence first : String} {rest : Words} (h : Begins sentence first rest) (polarity : Bool)
    {vocabulary : Vocabulary} {body : Statement}
    (hbody : ∀ text, parseSimple vocabulary text (first :: rest) = .ok body) :
    parse vocabulary (Jump.marker polarity ++ " " ++ Text.lowercaseFirst sentence) =
      .ok (.conditional polarity body) := by
  obtain ⟨text, mark, lowered, c, rfl, hmark, hc, hne, -, hlowered, hsame⟩ := h
  have words : Words.ofText (Jump.marker polarity ++ " " ++ Text.lowercaseFirst (text ++ mark)) =
      "If" :: (if polarity then "so" else "not") :: "," :: lowered :: rest := by
    rw [Text.lowercaseFirst_append hne, ← String.append_assoc, Words.ofText_terminated _ hmark hc,
      Words.ofBody_append_space, hlowered]
    cases polarity <;> rfl
  have marked : Jump.readMarker ("If" :: (if polarity then "so" else "not") :: "," :: lowered :: rest) =
      (some polarity, lowered :: rest) := by cases polarity <;> rfl
  simp only [parse, words, marked]
  rw [parseSimple_congr hsame, hbody]
  rfl

/-! ## Sentences as they are heard -/

/-- the sentence is understood as `meant`, whether it stands alone or in a conditional -/
def Heard (hearer : Vocabulary) (meant : Statement) (sentence : String) : Prop :=
  ∃ first rest, Begins sentence first rest ∧ Text.same first "if" = false ∧
    ∀ text, parseSimple hearer text (first :: rest) = .ok meant

theorem Heard.parse {hearer : Vocabulary} {meant : Statement} {sentence : String} (h : Heard hearer meant sentence) :
    parse hearer sentence = .ok meant := by
  obtain ⟨first, rest, hbegins, hif, hparse⟩ := h
  rw [parse_of_begins hbegins hif, hparse]

theorem Heard.parse_conditional {hearer : Vocabulary} {meant : Statement} {sentence : String}
    (h : Heard hearer meant sentence) (polarity : Bool) :
    Sentence.parse hearer (Jump.marker polarity ++ " " ++ Text.lowercaseFirst sentence) =
      .ok (.conditional polarity meant) := by
  obtain ⟨first, rest, hbegins, -, hparse⟩ := h
  exact Sentence.parse_conditional hbegins polarity hparse

/-- fixed words that a sentence opens with: the first, also without its capital letter, and the others -/
structure Lead (lead capital small : String) (more : Words) : Prop where
  words : Words.ofBody lead = capital :: more
  lowered : Words.ofBody (Text.lowercaseFirst lead) = small :: more
  same : Text.same small capital = true
  plain : Text.same small "if" = false

theorem Lead.capital_plain {lead capital small : String} {more : Words} (h : Lead lead capital small more) :
    Text.same capital "if" = false :=
  (Text.same_congr h.same "if").symm.trans h.plain

theorem Lead.begins {lead capital small : String} {more : Words} (h : Lead lead capital small more) (tail : String)
    {mark : String} {c : Char} (hmark : mark.toList = [c]) (hc : isTerminator c = true) :
    Begins (lead ++ " " ++ tail ++ mark) capital (more ++ Words.ofBody tail) := by
  have hne : lead ≠ "" := by
    rintro rfl
    have hwords := h.words
    rw [show Words.ofBody "" = [] by decide] at hwords
    cases hwords
  exact begins_append hne h.words h.lowered h.same tail hmark hc

/-- the sentence is understood if its words are, the first of them in small letters -/
theorem Lead.heard {lead capital small : String} {more : Words} (h : Lead lead capital small more) {tail : String}
    {words : Words} (htail : Words.ofBody tail = words) {mark : String} {c : Char} (hmark : mark.toList = [c])
    (hc : isTerminator c = true) {hearer : Vocabulary} {meant : Statement}
    (hparse : ∀ text, parseSimple hearer text (small :: (more ++ words)) = .ok meant) :
    Heard hearer meant (lead ++ " " ++ tail ++ mark) := by
  refine ⟨capital, _, h.begins tail hmark hc, h.capital_plain, fun text => ?_⟩
  rw [htail, ← parseSimple_congr h.same, hparse]

end Sentence

end Playscript
