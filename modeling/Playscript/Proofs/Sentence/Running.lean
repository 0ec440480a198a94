/-
Whatever is said in a play is made of sentences.

- `spelled_running`, `composeSubject_running`, `composeRelation_running`: whatever words are chosen, the parts of a
  clause are running text;
- `compose_isSentence`: so what a statement is composed to is one sentence, with its mark at the end and none before;
- `running_of_compose`: the text of a direction is running text.
-/
import Playscript.Proofs.Cast
import Playscript.Proofs.Phrase.Running
import Playscript.Proofs.Sentence.Directions
import Playscript.Proofs.Sentence.RoundTrip

namespace Playscript

open Lexicon Choosing

/-! ## Small letters -/

theorem isSimple_toLower_ascii : ∀ code < 0x80, isSimple (Char.ofNat code) = true →
    isSimple (Char.ofNat code).toLower = true ∧ (Char.ofNat code).toLower ≠ ' ' := by decide

theorem smallForm_of_isSimple {c : Char} (h : isSimple c = true) :
    Text.smallForm c = [c.toLower] ∧ isSimple c.toLower = true ∧ c.toLower ≠ ' ' := by
  have ascii : Text.isAscii c = true := by
    simp only [isSimple, Bool.and_eq_true] at h
    exact h.1.1
  have small := isSimple_toLower_ascii c.toNat (by simpa [Text.isAscii] using ascii)
  rw [Char.ofNat_toNat] at small
  exact ⟨if_pos ascii, small h⟩

/-- a sentence stays one without its capital letter -/
theorem IsSentence.lowercaseFirst {sentence : String} (h : IsSentence sentence) :
    IsSentence (Text.lowercaseFirst sentence) := by
  obtain ⟨body, mark, hsentence, hbody, hmark⟩ := h
  obtain ⟨c, rest, rfl, hspace, hc⟩ := hbody.head
  obtain ⟨hsmall, hsimple, hspace'⟩ := smallForm_of_isSimple hc
  obtain ⟨-, hrest⟩ := (Text.spaced_cons hspace).1 hbody
  refine ⟨c.toLower :: rest, mark, ?_, (Text.spaced_cons hspace').2 ⟨hsimple, hrest⟩, hmark⟩
  rw [Text.lowercaseFirst, hsentence]
  simp [hsmall]

/-- running text may stand in front of a sentence -/
theorem Running.append_sentence {text sentence : String} (htext : Running text) (h : IsSentence sentence) :
    IsSentence (text ++ " " ++ sentence) := by
  obtain ⟨body, mark, hsentence, hbody, hmark⟩ := h
  refine ⟨text.toList ++ ' ' :: body, mark, ?_, Text.spaced_append_space.2 ⟨htext, hbody⟩, hmark⟩
  simp [String.toList_append, hsentence]

namespace Sentence

theorem isNumeral_of_numeral {n : Nat} {word : String} (h : standard.numeral n = .ok word) : IsNumeral word :=
  standard_prints.numerals word (parseNumeral_numeral h).1

theorem running_likeness {adjective : String} (h : Running adjective) : Running ("as " ++ adjective ++ " as") := by
  have parts : "as " ++ adjective ++ " as" = "as" ++ " " ++ adjective ++ " " ++ "as" := by simp [← String.toList_inj]
  rw [parts, running_append_space, running_append_space]
  exact ⟨⟨by decide, h⟩, by decide⟩

/-! ## Jumps -/

theorem isSentence_of_jump {target : JumpTarget} {sentence : String} (h : Jump.compose standard target = .ok sentence) :
    IsSentence sentence := by
  rcases jump_compose_cases h with ⟨n, word, -, hn, rfl⟩ | ⟨m, n, actWord, word, -, hm, hn, rfl⟩
  · have body : Running ("Let us proceed to scene" ++ " " ++ word) :=
      running_append_space.2 ⟨by decide, (isNumeral_of_numeral hn).1⟩
    exact body.isSentence (by decide)
  · have act : Running (actWord ++ "," ++ " " ++ "scene" ++ " " ++ word) := by
      rw [running_append_space, running_append_space]
      exact ⟨⟨(isNumeral_of_numeral hm).1.comma, by decide⟩, (isNumeral_of_numeral hn).1⟩
    have body : Running ("Let us proceed to act" ++ " " ++ (actWord ++ "," ++ " " ++ "scene" ++ " " ++ word)) :=
      running_append_space.2 ⟨by decide, act⟩
    exact body.isSentence (by decide)

/-! ## Clauses -/

section Yields

variable {cast : Cast} (hdrawn : cast.Drawn standardCast)

theorem pleasantAdjective_running : Yields (pleasantAdjective (Vocabulary.of standard cast)) Running :=
  pleasantAdjective_yields.mono fun _ ⟨_, h⟩ => standard_prints.words _ h

theorem composeRelation_running (relation : Relation) :
    Yields (composeRelation (Vocabulary.of standard cast) relation) Running := by
  have comparative : ∀ polarity word, (word, polarity) ∈ standard.comparatives.entries → Running (word ++ " than") := by
    intro polarity word h
    have parts : word ++ " than" = word ++ " " ++ "than" := by simp [← String.toList_inj]
    rw [parts, running_append_space]
    exact ⟨standard_prints.words _ (mem_entries_comparative.2 h), by decide⟩
  cases relation with
  | equal => exact pleasantAdjective_running.bind fun adjective h => yields_pure (running_likeness h)
  | greater =>
    refine (yields_chooseOr _ _).bind fun word hword => yields_pure (comparative .positive word ?_)
    have hmem : word ∈ standard.comparatives.positive := (List.mem_filter.1 hword).1
    exact List.mem_append_left _ (List.mem_map_of_mem hmem)
  | less =>
    refine (yields_chooseOr _ _).bind fun word hword => yields_pure (comparative .negative word ?_)
    have hmem : word ∈ standard.comparatives.negative := (List.mem_filter.1 hword).1
    exact List.mem_append_right _ (List.mem_map_of_mem hmem)

include hdrawn

theorem spelled_running (subject : Option Role) (value : Value) :
    Yields (spelled (Vocabulary.of standard cast) subject value) Running := by
  have follows : (Vocabulary.of standard cast).cast.Follows cast id fun _ => True := hdrawn.follows_self
  have spells : Yields (Phrase.spell (Vocabulary.of standard cast) subject value) _ :=
    Phrase.spell_yields standard_valid rfl follows subject fun _ _ => trivial
  refine (spells.adapt _).bind fun phrase h => yields_pure ?_
  exact NounPhrase.running_text standard_prints.words
    (fun name hname => (standard_prints.names name (hdrawn.named name hname)).running) h.within

theorem composeAssignment_isSentence (value : Value) :
    Yields (composeAssignment (Vocabulary.of standard cast) value) IsSentence := by
  have opening : Yields (subjectAndVerb (Vocabulary.of standard cast) .addressee) (· = ("you", "are")) :=
    yields_pure rfl
  have spelled := spelled_running hdrawn (some .addressee) value
  refine opening.bind fun _ e => ?_
  subst e
  dsimp only
  split
  · refine spelled.bind fun text htext => yields_pure ?_
    have body : Running ("You are" ++ " " ++ text) := running_append_space.2 ⟨by decide, htext⟩
    exact body.isSentence (by decide)
  · refine pleasantAdjective_running.bind fun adjective ha => spelled.bind fun text htext => yields_pure ?_
    have likeness : Running ("You are" ++ " " ++ ("as " ++ adjective ++ " as") ++ " " ++ text) := by
      rw [running_append_space, running_append_space]
      exact ⟨⟨by decide, running_likeness ha⟩, htext⟩
    have sentence : "You are" ++ " as " ++ adjective ++ " as " ++ text ++ "." =
        "You are" ++ " " ++ ("as " ++ adjective ++ " as") ++ " " ++ text ++ "." := by simp [← String.toList_inj]
    have closed := likeness.isSentence (show "." ∈ [".", "?", "!"] by decide)
    rw [← sentence] at closed
    exact closed

theorem composeSubject_running (value : Value) :
    Yields (composeSubject (Vocabulary.of standard cast) value) fun opening => Running opening.1 := by
  have ofValue : ∀ value : Value, Yields (do
      let phrase ← spelled (Vocabulary.of standard cast) none value
      return ("Is " ++ phrase, none)) fun opening : String × Option Role => Running opening.1 := by
    refine fun value => (spelled_running hdrawn none value).bind fun text htext => yields_pure ?_
    have body : Running ("Is" ++ " " ++ text) := running_append_space.2 ⟨by decide, htext⟩
    exact body
  cases value with
  | role role => cases role <;> exact yields_pure (by decide)
  | constant n => exact ofValue _
  | binary op lhs rhs => exact ofValue _
  | unary op operand => exact ofValue _
  | character id => exact ofValue _

theorem composeQuestion_isSentence (speaker : Ident) (c : Comparison) :
    Yields (composeQuestion (Vocabulary.of standard cast) speaker c) IsSentence := by
  refine (composeSubject_running hdrawn _).bind fun (opening, subject) hopening => ?_
  refine (composeRelation_running c.relation).bind fun relation hrelation => ?_
  refine (spelled_running hdrawn subject _).bind fun text htext => yields_pure ?_
  have negated : Running (opening ++ (if c.negated then " not" else "")) := by
    cases c.negated with
    | false => simpa using hopening
    | true =>
      have parts : opening ++ " not" = opening ++ " " ++ "not" := by simp [← String.toList_inj]
      simp only [if_true]
      rw [parts, running_append_space]
      exact ⟨hopening, by decide⟩
  have body : Running (opening ++ (if c.negated then " not" else "") ++ " " ++ relation ++ " " ++ text) := by
    rw [running_append_space, running_append_space]
    exact ⟨⟨negated, hrelation⟩, htext⟩
  exact body.isSentence (by decide)

/-! ## Sentences -/

theorem composeSimple_isSentence (speaker : Ident) (statement : Statement) :
    Yields (composeSimple (Vocabulary.of standard cast) speaker statement) IsSentence := by
  cases statement with
  | assign value => exact composeAssignment_isSentence hdrawn _
  | compare c => exact composeQuestion_isSentence hdrawn speaker c
  | conditional polarity body => exact yields_throw _ _
  | jump target =>
    simp only [composeSimple]
    split
    · rename_i sentence h
      exact yields_pure (isSentence_of_jump h)
    · exact yields_throw _ _
  | input channel =>
    cases channel with
    | character => exact yields_pure ((by decide : Running "Open your mind").isSentence (by decide : "!" ∈ _))
    | integer => exact yields_pure ((by decide : Running "Listen to your heart").isSentence (by decide : "!" ∈ _))
  | output channel =>
    cases channel with
    | character => exact yields_pure ((by decide : Running "Speak your mind").isSentence (by decide : "!" ∈ _))
    | integer => exact yields_pure ((by decide : Running "Open your heart").isSentence (by decide : "!" ∈ _))
  | remember value =>
    refine (spelled_running hdrawn (some .addressee) _).bind fun text htext => yields_pure ?_
    have body : Running ("Remember" ++ " " ++ text) := running_append_space.2 ⟨by decide, htext⟩
    exact body.isSentence (by decide : "." ∈ _)
  | «recall» => exact yields_pure ((by decide : Running "Recall your past").isSentence (by decide : "." ∈ _))

/-- **What a statement is composed to is one sentence**, whatever words are chosen. -/
theorem compose_isSentence (speaker : Ident) (statement : Statement) :
    Yields (compose (Vocabulary.of standard cast) speaker statement) IsSentence := by
  cases statement with
  | conditional polarity body =>
    refine (composeSimple_isSentence hdrawn speaker body).bind fun sentence h => yields_pure ?_
    have marker : Running (Jump.marker polarity) := by cases polarity <;> decide
    exact marker.append_sentence h.lowercaseFirst
  | _ => exact composeSimple_isSentence hdrawn speaker _

end Yields

end Sentence

/-! ## Directions -/

namespace Direction

theorem running_listed {names : List String} (h : ∀ name ∈ names, Running name) (hne : names ≠ []) :
    Running (listed names) := by
  induction names with
  | nil => exact absurd rfl hne
  | cons first rest ih =>
    have hfirst := h first List.mem_cons_self
    have hrest := fun name hname => h name (List.mem_cons_of_mem first hname)
    match rest with
    | [] => exact hfirst
    | [last] => exact running_append_and.2 ⟨hfirst, hrest last (by simp)⟩
    | second :: third :: more =>
      have parts : listed (first :: second :: third :: more) =
          first ++ "," ++ " " ++ listed (second :: third :: more) := by
        rw [listed] <;> simp [← String.toList_inj]
      rw [parts, running_append_space]
      exact ⟨hfirst.comma, ih hrest (by simp)⟩

/-- **The text of a direction is running text.** -/
theorem running_of_compose {cast : Cast} (hdrawn : cast.Drawn standardCast) {direction : StageDirection} {text : String}
    (h : compose cast direction = .ok text) : Running text := by
  have named : ∀ name ∈ cast.names, Running name := fun name hname =>
    (standard_prints.names name (hdrawn.named name hname)).running
  have hearer : Sentence.Hearer (Vocabulary.of standard cast) := ⟨rfl, hdrawn.named⟩
  have follows : (Vocabulary.of standard cast).cast.Follows cast id fun _ => True := hdrawn.follows_self
  have list : ∀ {ids names}, ids ≠ [] → namesOf cast ids = .ok names → Running (listed names) := by
    intro ids names hne hnames
    have hmem := mem_standardCast_of_namesOf hearer follows (fun _ _ => trivial) hnames
    refine running_listed (fun name hname => (standard_prints.names name (hmem name hname)).running) ?_
    rintro rfl
    exact hne (eq_nil_of_namesOf hnames)
  rcases compose_cases h with ⟨ids, names, -, hne, hnames, rfl⟩ | ⟨id, name, -, hname, rfl⟩ | ⟨-, rfl⟩ |
    ⟨ids, names, -, hne, hnames, rfl⟩
  · exact running_append_space.2 ⟨by decide, list hne hnames⟩
  · exact running_append_space.2 ⟨by decide, named name (Cast.mem_names (Cast.nameOf_eq_some hname))⟩
  · decide
  · exact running_append_space.2 ⟨by decide, list hne hnames⟩

end Direction

end Playscript
