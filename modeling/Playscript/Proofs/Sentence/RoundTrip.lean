/-
Parsing undoes composing.

- `Statement.Composable`: what a statement needs to have a sentence;
- `compose_succeeds`: with words enough, a statement has a sentence exactly when it is composable;
- `compose_yields`: whatever words are chosen, a hearer who knows the characters by the names that the composer gives
  them understands the sentence as the canonical form of the statement;
- `parse_compose`: both, for any cast that the standard names have been given out to.
-/
import Playscript.Proofs.Cast
import Playscript.Proofs.Sentence.Clauses
import Playscript.Proofs.Sentence.Jumps

namespace Playscript

namespace Statement

/-- the acts and scenes that a statement names -/
def numerals : Statement → List Nat
  | .conditional _ body => body.numerals
  | .jump target => target.act.toList ++ [target.scene]
  | _ => []

/-- what a statement needs to have a sentence that `speaker` can say -/
structure Composable (lexicon : Lexicon) (cast : Cast) (speaker : Ident) (statement : Statement) : Prop where
  flat : ∀ polarity inner body, statement ≠ .conditional polarity (.conditional inner body)
  named : ∀ id ∈ statement.mentions, id ≠ speaker → ∃ name, cast.nameOf id = some name
  numbered : ∀ n ∈ statement.numerals, 1 ≤ n ∧ n ≤ lexicon.numerals.length

end Statement

namespace Sentence

open Lexicon Phrase Choosing

/-! ## Sentences without a phrase -/

theorem heard_input (hearer : Vocabulary) (channel : Channel) :
    Heard hearer (.input channel)
      (match channel with | .character => "Open your mind!" | .integer => "Listen to your heart!") := by
  cases channel with
  | character =>
    have lead : Lead "Open your" "Open" "open" ["your"] := ⟨by decide, by decide, by decide, by decide⟩
    have words : Words.ofBody "mind" = ["mind"] := by decide
    exact lead.heard words (show "!".toList = ['!'] from rfl) rfl fun text => rfl
  | integer =>
    have lead : Lead "Listen to your" "Listen" "listen" ["to", "your"] :=
      ⟨by decide, by decide, by decide, by decide⟩
    have words : Words.ofBody "heart" = ["heart"] := by decide
    exact lead.heard words (show "!".toList = ['!'] from rfl) rfl fun text => rfl

theorem heard_output (hearer : Vocabulary) (channel : Channel) :
    Heard hearer (.output channel)
      (match channel with | .character => "Speak your mind!" | .integer => "Open your heart!") := by
  cases channel with
  | character =>
    have lead : Lead "Speak your" "Speak" "speak" ["your"] := ⟨by decide, by decide, by decide, by decide⟩
    have words : Words.ofBody "mind" = ["mind"] := by decide
    exact lead.heard words (show "!".toList = ['!'] from rfl) rfl fun text => rfl
  | integer =>
    have lead : Lead "Open your" "Open" "open" ["your"] := ⟨by decide, by decide, by decide, by decide⟩
    have words : Words.ofBody "heart" = ["heart"] := by decide
    exact lead.heard words (show "!".toList = ['!'] from rfl) rfl fun text => rfl

theorem heard_recall (hearer : Vocabulary) : Heard hearer .recall "Recall your past." := by
  have lead : Lead "Recall your" "Recall" "recall" ["your"] := ⟨by decide, by decide, by decide, by decide⟩
  have words : Words.ofBody "past" = ["past"] := by decide
  exact lead.heard words (show ".".toList = ['.'] from rfl) rfl fun text => rfl

/-! ## How a sentence is understood -/

section Yields

variable {teller : Cast} {hearer : Vocabulary} (hh : Hearer hearer) {f : Ident → Ident} {known : Ident → Prop}
  (hfollow : hearer.cast.Follows teller f known)
include hh hfollow

/-- the phrase of a value, once composed, is understood as the folded value -/
theorem spelled_yields (subject : Option Role) {value : Value} (hknown : ∀ id ∈ value.mentions, known id) :
    Yields (spelled (Vocabulary.of standard teller) subject value) fun text =>
      ∃ phrase, Understood standard hearer (value.canonical.rename f) phrase ∧ Words.ofBody text = phrase.words := by
  have h := spell_yields standard_valid hh.lexicon hfollow subject hknown
  exact (h.adapt _).bind fun phrase hphrase => yields_pure ⟨phrase, hphrase, rfl⟩

omit hh hfollow in
/-- the words of "as good as" -/
theorem ofBody_likeness {adjective : String} {polarity : Polarity}
    (ha : (adjective, .adjective polarity) ∈ standard.entries) :
    Words.ofBody ("as " ++ adjective ++ " as") = ["as", adjective, "as"] := by
  have h1 : "as " ++ adjective ++ " as" = "as" ++ " " ++ adjective ++ " " ++ "as" := by simp [← String.toList_inj]
  have has : Words.ofBody "as" = ["as"] := by decide
  rw [h1, Words.ofBody_append_space, Words.ofBody_append_space, has, standard_words.single _ ha]
  rfl

omit hh hfollow in
theorem pleasantAdjective_yields :
    Yields (pleasantAdjective (Vocabulary.of standard teller)) fun adjective =>
      ∃ polarity, (adjective, .adjective polarity) ∈ standard.entries :=
  (yields_chooseOr _ _).mono fun _ h => (Stock.mem_adjectivesFor h).imp fun _ hp => hp.1

theorem composeAssignment_yields {value : Value} (hknown : ∀ id ∈ value.mentions, known id) :
    Yields (composeAssignment (Vocabulary.of standard teller) value)
      (Heard hearer (.assign (value.canonical.rename f))) := by
  have lead : Lead "You are" "You" "you" ["are"] := ⟨by decide, by decide, by decide, by decide⟩
  have plain : ∀ word ∈ ["let", "open", "listen", "speak"], Text.same "you" word = false := by decide
  have clause := fun text ws => (parseSimple_clause plain hearer text ("are" :: ws)).trans
    (parseClause_addressee hh text ws)
  have opening : Yields (subjectAndVerb (Vocabulary.of standard teller) .addressee) (· = ("you", "are")) :=
    yields_pure rfl
  have spelled := spelled_yields hh hfollow (some .addressee) hknown
  refine opening.bind fun _ e => ?_
  subst e
  dsimp only
  split
  · refine spelled.bind fun text h => yields_pure ?_
    obtain ⟨phrase, hphrase, hwords⟩ := h
    refine lead.heard hwords rfl rfl fun text => ?_
    exact (clause text phrase.words).trans (readAssignment_plain hh hphrase)
  · refine pleasantAdjective_yields.bind fun adjective ha => spelled.bind fun text h => yields_pure ?_
    obtain ⟨polarity, ha⟩ := ha
    obtain ⟨phrase, hphrase, hwords⟩ := h
    have tail : Words.ofBody ("as " ++ adjective ++ " as" ++ " " ++ text) = "as" :: adjective :: "as" :: phrase.words := by
      rw [Words.ofBody_append_space, ofBody_likeness ha, hwords]
      rfl
    have sentence : "You are" ++ " as " ++ adjective ++ " as " ++ text ++ "." =
        "You are" ++ " " ++ ("as " ++ adjective ++ " as" ++ " " ++ text) ++ "." := by simp [← String.toList_inj]
    have heard := lead.heard tail (show ".".toList = ['.'] from rfl) rfl fun text =>
      (clause text _).trans (readAssignment_likeness hh ha hphrase)
    rw [← sentence] at heard
    exact heard

theorem composeRemember_yields {value : Value} (hknown : ∀ id ∈ value.mentions, known id) :
    Yields (spelled (Vocabulary.of standard teller) (some .addressee) value) fun text =>
      Heard hearer (.remember (value.canonical.rename f)) ("Remember " ++ text ++ ".") := by
  have lead : Lead "Remember" "Remember" "remember" [] := ⟨by decide, by decide, by decide, by decide⟩
  refine (spelled_yields hh hfollow _ hknown).mono fun text h => ?_
  obtain ⟨phrase, hphrase, hwords⟩ := h
  have plain : ∀ word ∈ ["let", "open", "listen", "speak"], Text.same "remember" word = false := by decide
  have heard := lead.heard hwords (show ".".toList = ['.'] from rfl) rfl fun text =>
    (parseSimple_clause plain hearer text phrase.words).trans
      (parseClause_remember hh text hphrase)
  have sentence : "Remember" ++ " " = "Remember " := by decide
  rw [sentence] at heard
  exact heard

/-! Questions. -/

omit hh hfollow in
/-- the opening of a question about `lhs`: what follows it is read as the rest of that question -/
def Asks (hearer : Vocabulary) (lhs : Value) (opening : String) : Prop :=
  ∃ first more, Text.same first "if" = false ∧
    (∀ tail, Begins (opening ++ " " ++ tail ++ "?") first (more ++ Words.ofBody tail)) ∧
    ∀ text ws, parseSimple hearer text (first :: (more ++ ws)) = readQuestion hearer lhs ws

omit hfollow in
theorem asks_role (role : Role) {lead capital : String}
    (h : Lead lead capital (questionWords role).1 [(questionWords role).2]) : Asks hearer (.role role) lead := by
  refine ⟨capital, _, h.capital_plain, fun tail => h.begins tail rfl rfl, fun text ws => ?_⟩
  have plain : ∀ word ∈ ["let", "open", "listen", "speak"], Text.same (questionWords role).1 word = false := by
    cases role <;> decide
  rw [← parseSimple_congr h.same]
  exact (parseSimple_clause plain hearer text _).trans (parseClause_role hh text role ws)

omit hfollow in
theorem asks_value {lhs : Value} {phrase : NounPhrase} (h : Understood standard hearer lhs phrase) {text : String}
    (hwords : Words.ofBody text = phrase.words) : Asks hearer lhs ("Is " ++ text) := by
  have lead : Lead "Is" "Is" "is" [] := ⟨by decide, by decide, by decide, by decide⟩
  have plain : ∀ word ∈ ["let", "open", "listen", "speak"], Text.same "is" word = false := by decide
  refine ⟨"Is", phrase.words, lead.capital_plain, fun tail => ?_, fun sentence ws => ?_⟩
  · have begins := lead.begins (text ++ " " ++ tail) (show "?".toList = ['?'] from rfl) rfl
    have sentence : "Is" ++ " " ++ (text ++ " " ++ tail) ++ "?" = "Is " ++ text ++ " " ++ tail ++ "?" := by
      simp [← String.toList_inj]
    rw [sentence, Words.ofBody_append_space, hwords] at begins
    exact begins
  · rw [← parseSimple_congr lead.same]
    exact (parseSimple_clause plain hearer sentence _).trans (parseClause_value hh sentence h ws)

theorem composeSubject_yields {value : Value} (hknown : ∀ id ∈ value.mentions, known id) :
    Yields (composeSubject (Vocabulary.of standard teller) value) fun opening =>
      Asks hearer (value.canonical.rename f) opening.1 := by
  have ofValue : ∀ value : Value, (∀ id ∈ value.mentions, known id) →
      Yields (do
        let phrase ← spelled (Vocabulary.of standard teller) none value
        return ("Is " ++ phrase, none)) fun opening : String × Option Role =>
        Asks hearer (value.canonical.rename f) opening.1 := by
    intro value hknown
    refine (spelled_yields hh hfollow none hknown).bind fun text h => yields_pure ?_
    obtain ⟨phrase, hphrase, hwords⟩ := h
    exact asks_value hh hphrase hwords
  cases value with
  | role role =>
    cases role with
    | speaker =>
      have opening : Yields (subjectAndVerb (Vocabulary.of standard teller) .speaker) (· = ("I", "am")) :=
        yields_pure rfl
      refine opening.bind fun _ e => yields_pure ?_
      subst e
      exact asks_role hh .speaker (show Lead "Am I" "Am" "am" ["I"] from ⟨by decide, by decide, by decide, by decide⟩)
    | addressee =>
      have opening : Yields (subjectAndVerb (Vocabulary.of standard teller) .addressee) (· = ("you", "are")) :=
        yields_pure rfl
      refine opening.bind fun _ e => yields_pure ?_
      subst e
      exact asks_role hh .addressee
        (show Lead "Are you" "Are" "are" ["you"] from ⟨by decide, by decide, by decide, by decide⟩)
  | constant n => exact ofValue _ hknown
  | binary op lhs rhs => exact ofValue _ hknown
  | unary op operand => exact ofValue _ hknown
  | character id => exact ofValue _ hknown

omit hfollow in
theorem composeRelation_yields (relation : Relation) :
    Yields (composeRelation (Vocabulary.of standard teller) relation) fun text =>
      Relates hearer relation (Words.ofBody text) := by
  have comparative : ∀ polarity word, (word, polarity) ∈ standard.comparatives.entries →
      Relates hearer (relationOf polarity) (Words.ofBody (word ++ " than")) := by
    intro polarity word hword
    have words : Words.ofBody (word ++ " than") = [word, "than"] := by
      have text : word ++ " than" = word ++ " " ++ "than" := by simp [← String.toList_inj]
      have single := standard_words.single _ (mem_entries_comparative.2 hword)
      rw [text, Words.ofBody_append_space, single]
      rfl
    rw [words]
    exact relates_comparative hh hword
  cases relation with
  | equal =>
    refine pleasantAdjective_yields.bind fun adjective ha => yields_pure ?_
    obtain ⟨polarity, ha⟩ := ha
    have words : Words.ofBody ("as " ++ adjective ++ " as") = ["as", adjective, "as"] := ofBody_likeness ha
    show Relates hearer .equal (Words.ofBody ("as " ++ adjective ++ " as"))
    rw [words]
    exact relates_likeness hh ha
  | greater =>
    refine (yields_chooseOr _ _).bind fun word hword => yields_pure (comparative .positive word ?_)
    have hmem : word ∈ standard.comparatives.positive := (List.mem_filter.1 hword).1
    exact List.mem_append_left _ (List.mem_map_of_mem hmem)
  | less =>
    refine (yields_chooseOr _ _).bind fun word hword => yields_pure (comparative .negative word ?_)
    have hmem : word ∈ standard.comparatives.negative := (List.mem_filter.1 hword).1
    exact List.mem_append_right _ (List.mem_map_of_mem hmem)

theorem composeQuestion_yields (speaker : Ident) (c : Comparison)
    (hknown : ∀ id ∈ c.lhs.mentions ++ c.rhs.mentions, known id) :
    Yields (composeQuestion (Vocabulary.of standard teller) speaker c)
      (Heard hearer (((Statement.compare c).canonical speaker).rename f)) := by
  have knownLhs : ∀ id ∈ (c.lhs.withSpeakerAsRole speaker).mentions, known id := fun id h =>
    hknown id (List.mem_append_left _ (Value.mem_mentions_withSpeakerAsRole.1 h).1)
  have knownRhs : ∀ id ∈ (c.rhs.withSpeakerAsRole speaker).mentions, known id := fun id h =>
    hknown id (List.mem_append_right _ (Value.mem_mentions_withSpeakerAsRole.1 h).1)
  refine (composeSubject_yields hh hfollow knownLhs).bind fun (opening, subject) hasks => ?_
  refine (composeRelation_yields hh c.relation).bind fun relation hrelates => ?_
  refine (spelled_yields hh hfollow subject knownRhs).bind fun text h => yields_pure ?_
  obtain ⟨phrase, hphrase, hwords⟩ := h
  obtain ⟨first, more, hif, hbegins, hparse⟩ := hasks
  have sentence : opening ++ (if c.negated then " not" else "") ++ " " ++ relation ++ " " ++ text ++ "?" =
      opening ++ " " ++ ((if c.negated then "not " else "") ++ relation ++ " " ++ text) ++ "?" := by
    cases c.negated <;> simp [← String.toList_inj]
  have tail : Words.ofBody ((if c.negated then "not " else "") ++ relation ++ " " ++ text) =
      negation c.negated ++ (Words.ofBody relation ++ phrase.words) := by
    rw [Words.ofBody_append_space, hwords]
    cases c.negated with
    | false => simp [negation]
    | true =>
      have split : "not " ++ relation = "not" ++ " " ++ relation := rfl
      have hnot : Words.ofBody "not" = ["not"] := by decide
      simp only [if_true]
      rw [split, Words.ofBody_append_space, hnot]
      rfl
  have begins := hbegins ((if c.negated then "not " else "") ++ relation ++ " " ++ text)
  rw [← sentence, tail] at begins
  refine ⟨first, _, begins, hif, fun text => ?_⟩
  rw [hparse, readQuestion_words hh hrelates c.negated _ hphrase]
  rfl

/-- **Whatever words are chosen, the sentence is understood as the canonical form of the statement.** -/
theorem composeSimple_yields (speaker : Ident) {statement : Statement} (hknown : ∀ id ∈ statement.mentions, known id) :
    Yields (composeSimple (Vocabulary.of standard teller) speaker statement)
      (Heard hearer ((statement.canonical speaker).rename f)) := by
  have knownOthers : ∀ value : Value, (∀ id ∈ value.mentions, known id) →
      ∀ id ∈ (value.withSpeakerAsRole speaker).mentions, known id :=
    fun value h id hid => h id (Value.mem_mentions_withSpeakerAsRole.1 hid).1
  cases statement with
  | assign value => exact composeAssignment_yields hh hfollow (knownOthers value hknown)
  | compare c => exact composeQuestion_yields hh hfollow speaker c hknown
  | conditional polarity body => exact yields_throw _ _
  | jump target =>
    simp only [composeSimple]
    split
    · rename_i sentence h
      exact yields_pure (heard_jump hh.lexicon h)
    · exact yields_throw _ _
  | input channel => cases channel <;> exact yields_pure (heard_input hearer _)
  | output channel => cases channel <;> exact yields_pure (heard_output hearer _)
  | remember value =>
    exact (composeRemember_yields hh hfollow (knownOthers value hknown)).bind fun text h => yields_pure h
  | «recall» => exact yields_pure (heard_recall hearer)

/-- **Whatever words are chosen, the sentence is parsed as the canonical form of the statement**, under the hearer's
identifiers. -/
theorem compose_yields (speaker : Ident) {statement : Statement} (hknown : ∀ id ∈ statement.mentions, known id) :
    Yields (compose (Vocabulary.of standard teller) speaker statement) fun sentence =>
      parse hearer sentence = .ok ((statement.canonical speaker).rename f) := by
  cases statement with
  | conditional polarity body =>
    have knownBody : ∀ id ∈ body.mentions, known id := hknown
    exact (composeSimple_yields hh hfollow speaker knownBody).bind fun sentence h =>
      yields_pure (h.parse_conditional polarity)
  | _ => exact (composeSimple_yields hh hfollow speaker hknown).mono fun sentence h => h.parse

end Yields

/-! ## Whether a statement has a sentence -/

section Succeeds

variable {vocabulary : Vocabulary} (h : vocabulary.Ample)
include h

theorem spelled_succeeds (subject : Option Role) (speaker : Ident) (value : Value) :
    Succeeds (spelled vocabulary subject (value.withSpeakerAsRole speaker))
      (∀ id ∈ value.mentions, id ≠ speaker → ∃ name, vocabulary.cast.nameOf id = some name) := by
  refine (((spell_succeeds h subject _).adapt _).bind fun phrase => succeeds_pure _).congr ?_
  simp only [Value.mem_mentions_withSpeakerAsRole, and_imp, and_true]

theorem subjectAndVerb_succeeds (role : Role) : Succeeds (subjectAndVerb vocabulary role) True := by
  obtain ⟨forms, hforms⟩ := h.pronouns role
  simp only [subjectAndVerb, hforms]
  exact succeeds_pure _

theorem pleasantAdjective_succeeds : Succeeds (pleasantAdjective vocabulary) True :=
  (succeeds_chooseOr _ _).congr (by simp [h.adjectives])

theorem composeAssignment_succeeds (speaker : Ident) (value : Value) :
    Succeeds (composeAssignment vocabulary (value.withSpeakerAsRole speaker))
      (∀ id ∈ value.mentions, id ≠ speaker → ∃ name, vocabulary.cast.nameOf id = some name) := by
  have spelled := spelled_succeeds h (some .addressee) speaker value
  refine ((subjectAndVerb_succeeds h .addressee).bind fun opening => ?_).congr (iff_of_eq (true_and _))
  dsimp only
  split
  · exact (spelled.bind fun text => succeeds_pure _).congr (iff_of_eq (and_true _))
  · refine ((pleasantAdjective_succeeds h).bind fun adjective => spelled.bind fun text => succeeds_pure _).congr ?_
    simp only [true_and, and_true]

theorem composeSubject_succeeds (speaker : Ident) (value : Value) :
    Succeeds (composeSubject vocabulary (value.withSpeakerAsRole speaker))
      (∀ id ∈ value.mentions, id ≠ speaker → ∃ name, vocabulary.cast.nameOf id = some name) := by
  have spelled := spelled_succeeds h none speaker value
  unfold composeSubject
  split
  · rename_i role hrole
    refine ((subjectAndVerb_succeeds h role).bind fun opening => succeeds_pure _).congr ?_
    -- a partner mentions nobody
    have none : ∀ id ∈ value.mentions, ¬id ≠ speaker := by
      intro id hid hne
      have hmem := Value.mem_mentions_withSpeakerAsRole.2 ⟨hid, hne⟩
      rw [hrole] at hmem
      cases hmem
    simp only [and_self, true_iff]
    exact fun id hid hne => absurd hne (none id hid)
  · exact (spelled.bind fun text => succeeds_pure _).congr (iff_of_eq (and_true _))

theorem composeRelation_succeeds (relation : Relation) : Succeeds (composeRelation vocabulary relation) True := by
  cases relation with
  | equal => exact ((pleasantAdjective_succeeds h).bind fun adjective => succeeds_pure _).congr (iff_of_eq (and_true _))
  | greater =>
    exact ((succeeds_chooseOr _ _).bind fun word => succeeds_pure _).congr (by simp [h.comparatives])
  | less =>
    exact ((succeeds_chooseOr _ _).bind fun word => succeeds_pure _).congr (by simp [h.comparatives])

theorem composeQuestion_succeeds (speaker : Ident) (c : Comparison) :
    Succeeds (composeQuestion vocabulary speaker c)
      (∀ id ∈ (Statement.compare c).mentions, id ≠ speaker → ∃ name, vocabulary.cast.nameOf id = some name) := by
  refine ((composeSubject_succeeds h speaker c.lhs).bind fun opening =>
    (composeRelation_succeeds h c.relation).bind fun relation =>
      (spelled_succeeds h opening.2 speaker c.rhs).bind fun text => succeeds_pure _).congr ?_
  simp only [Statement.mentions, List.mem_append, or_imp, forall_and, true_and, and_true]

theorem composeSimple_succeeds (speaker : Ident) (statement : Statement) :
    Succeeds (composeSimple vocabulary speaker statement)
      (statement.isConditional = false ∧
        (∀ id ∈ statement.mentions, id ≠ speaker → ∃ name, vocabulary.cast.nameOf id = some name) ∧
        ∀ n ∈ statement.numerals, 1 ≤ n ∧ n ≤ vocabulary.lexicon.numerals.length) := by
  cases statement with
  | assign value =>
    exact (composeAssignment_succeeds h speaker value).congr
      (by simp [Statement.isConditional, Statement.mentions, Statement.numerals])
  | compare c =>
    exact (composeQuestion_succeeds h speaker c).congr (by simp [Statement.isConditional, Statement.numerals])
  | conditional polarity body => exact (succeeds_throw _).congr (by simp [Statement.isConditional])
  | jump target =>
    have counted := jump_compose_isOk_iff vocabulary.lexicon target
    simp only [Statement.isConditional, Statement.mentions, Statement.numerals, List.not_mem_nil, false_imp_iff,
      implies_true, true_and, ← counted, composeSimple]
    cases hjump : Jump.compose vocabulary.lexicon target with
    | ok sentence => exact (succeeds_pure _).congr (by simp)
    | error cause => exact (succeeds_throw _).congr (by simp)
  | input channel =>
    cases channel <;>
      exact (succeeds_pure _).congr (by simp [Statement.isConditional, Statement.mentions, Statement.numerals])
  | output channel =>
    cases channel <;>
      exact (succeeds_pure _).congr (by simp [Statement.isConditional, Statement.mentions, Statement.numerals])
  | remember value =>
    exact ((spelled_succeeds h (some .addressee) speaker value).bind fun text => succeeds_pure _).congr
      (by simp [Statement.isConditional, Statement.mentions, Statement.numerals])
  | «recall» =>
    exact (succeeds_pure _).congr (by simp [Statement.isConditional, Statement.mentions, Statement.numerals])

/-- **A statement has a sentence exactly when it is composable**, whatever words are chosen. -/
theorem compose_succeeds (speaker : Ident) (statement : Statement) :
    Succeeds (compose vocabulary speaker statement)
      (statement.Composable vocabulary.lexicon vocabulary.cast speaker) := by
  have simple : statement.isConditional = false →
      ((statement.isConditional = false ∧
        (∀ id ∈ statement.mentions, id ≠ speaker → ∃ name, vocabulary.cast.nameOf id = some name) ∧
        ∀ n ∈ statement.numerals, 1 ≤ n ∧ n ≤ vocabulary.lexicon.numerals.length) ↔
      statement.Composable vocabulary.lexicon vocabulary.cast speaker) := by
    refine fun hs => ⟨fun ⟨_, hnamed, hnumbered⟩ => ⟨?_, hnamed, hnumbered⟩, fun hc => ⟨hs, hc.named, hc.numbered⟩⟩
    rintro polarity inner body rfl
    cases hs
  cases statement with
  | conditional polarity body =>
    refine ((composeSimple_succeeds h speaker body).bind fun sentence => succeeds_pure _).congr ?_
    constructor
    · rintro ⟨⟨hflat, hnamed, hnumbered⟩, -⟩
      refine ⟨?_, hnamed, hnumbered⟩
      rintro _ inner innermost ⟨⟩
      cases hflat
    · rintro ⟨hflat, hnamed, hnumbered⟩
      refine ⟨⟨?_, hnamed, hnumbered⟩, trivial⟩
      cases body with
      | conditional inner innermost => exact absurd rfl (hflat polarity inner innermost)
      | _ => rfl
  | _ => exact (composeSimple_succeeds h speaker _).congr (simple rfl)

end Succeeds

/-! ## Casts of the standard names -/

/-- **Parsing undoes composing.** Let the names of the standard lexicon have been given out in any way, and let the words
be chosen from any state of the generator. A statement has a sentence exactly when it is no conditional of a
conditional, every character in it other than the speaker has a name and every act and scene in it has a numeral; and
its sentence is parsed as its canonical form. -/
theorem parse_compose {cast : Cast} (hcast : (Cast.ofLexicon standard).Grows cast) (g : Generator) (speaker : Ident)
    (statement : Statement) :
    ((∃ sentence, (compose (Vocabulary.of standard cast) speaker statement g).1 = .ok sentence) ↔
        statement.Composable standard cast speaker) ∧
      ∀ sentence, (compose (Vocabulary.of standard cast) speaker statement g).1 = .ok sentence →
        parse (Vocabulary.of standard cast) sentence = .ok (statement.canonical speaker) := by
  have drawn := Cast.drawn_of_grows hcast
  have ample := Vocabulary.ample_of_standard drawn.named
  have hearer : Hearer (Vocabulary.of standard cast) := ⟨rfl, drawn.named⟩
  refine ⟨compose_succeeds ample speaker statement g, fun sentence h => ?_⟩
  have understood := compose_yields hearer drawn.follows_self speaker (fun _ _ => trivial) g sentence h
  rwa [Statement.rename_id] at understood

/-- a question in a conditional, about a character who has a name and the one who speaks -/
theorem parse_compose_question :
    let romeo : Ident := ⟨"romeo"⟩
    let juliet : Ident := ⟨"juliet"⟩
    let cast : Cast := ⟨standardCast.drop 1, [(romeo, "Romeo")]⟩
    let statement : Statement := .conditional true
      (.compare ⟨.greater, true, .binary .add (.constant 5) (.character romeo), .character juliet⟩)
    (Cast.ofLexicon standard).Grows cast ∧
      ∃ sentence, (compose (Vocabulary.of standard cast) juliet statement (Generator.ofSeed 7)).1 = .ok sentence ∧
        parse (Vocabulary.of standard cast) sentence = .ok (statement.canonical juliet) := by
  intro romeo juliet cast statement
  have named : (Cast.ofLexicon standard).allocate romeo = .ok ("Romeo", cast) := rfl
  have grown := (Cast.Grows.refl _).allocate named
  have round := parse_compose grown (Generator.ofSeed 7) juliet statement
  have composable : statement.Composable standard cast juliet := by
    refine ⟨by simp [statement], fun id hid hne => ?_, by simp [statement, Statement.numerals]⟩
    have hromeo : id = romeo := by simpa [statement, Statement.mentions, Value.mentions, hne] using hid
    exact ⟨"Romeo", by rw [hromeo]; rfl⟩
  obtain ⟨sentence, hsentence⟩ := round.1.2 composable
  exact ⟨grown, sentence, hsentence, round.2 sentence hsentence⟩

end Sentence

end Playscript
