/-
Sentences with any pronoun of a lexicon.

A parser looks a pronoun up by one of its words, the subject or the verb, and compares the other word afterwards. So it
finds the first entry with the word, and an entry behind it that shares the word is not reached.

- `Text.Lettered`, `Lexicon.Plain`: words of letters, and those among them that open no other kind of sentence;
- `Lexicon.Asks`, `Lexicon.Addresses`: the entry that is found by its verb, or by its subject, is the one that is meant;
- `parseClause_plain`: what is made of words that open with a pronoun or its verb;
- `parse_pronoun_iff`: an entry serves for questions and assignments exactly if it is found;
- `parse_pronoun_shadowed`: a valid lexicon in which "Are you" asks nothing.
-/
import Playscript.Proofs.Lexicon.Classification
import Playscript.Proofs.Outcome
import Playscript.Proofs.Sentence.Opening
import Playscript.Proofs.Text.Single

namespace Playscript

/-! ## Words of letters -/

namespace Text

/-- a word of ASCII letters -/
def Lettered (word : String) : Prop := word.toList ≠ [] ∧ ∀ c ∈ word.toList, c.isAlpha = true

instance (word : String) : Decidable (Lettered word) :=
  decidable_of_iff (word.toList ≠ [] ∧ word.toList.all Char.isAlpha = true) (and_congr Iff.rfl List.all_eq_true)

theorem isBlank_of_isAlpha {c : Char} (h : c.isAlpha = true) : isBlank c = false := by
  refine Bool.eq_false_iff.2 fun hblank => ?_
  have apart : ∀ code ∈ blankCodes, (Char.ofNat code).isAlpha = false := by decide
  have hcode := apart c.toNat (toNat_mem_blankCodes hblank)
  rw [Char.ofNat_toNat, h] at hcode
  cases hcode

theorem Lettered.ofBody {word : String} (h : Lettered word) : Words.ofBody word = [word] := by
  refine Words.ofBody_single h.1 (fun c hc => isBlank_of_isAlpha (h.2 c hc)) fun hcomma => ?_
  have hletter := h.2 ',' (List.mem_of_getLast? hcomma)
  cases hletter

end Text

/-! ## Entries -/

/-- the words that open another kind of sentence -/
def openers : List String := ["let", "open", "listen", "speak", "recall", "remember", "is", "if"]

namespace Lexicon

/-- a word of letters that opens no other kind of sentence -/
structure Plain (word : String) : Prop where
  letters : Text.Lettered word
  opens : ∀ opener ∈ openers, Text.same word opener = false

instance (word : String) : Decidable (Plain word) :=
  decidable_of_iff (Text.Lettered word ∧ ∀ opener ∈ openers, Text.same word opener = false)
    ⟨fun h => ⟨h.1, h.2⟩, fun h => ⟨h.letters, h.opens⟩⟩

/-- the first pronoun with this verb has this subject -/
def Asks (lexicon : Lexicon) (verb subject : String) : Prop :=
  ∃ entry ∈ lexicon.verbPronoun verb, Text.same entry.2.subject subject = true

/-- the first pronoun with this subject is of the second person and has this verb -/
def Addresses (lexicon : Lexicon) (subject verb : String) : Prop :=
  ∃ entry ∈ lexicon.subjectPronoun subject, entry.1 = .addressee ∧ Text.same entry.2.verb verb = true

instance (lexicon : Lexicon) (verb subject : String) : Decidable (lexicon.Asks verb subject) :=
  inferInstanceAs (Decidable (∃ entry ∈ lexicon.verbPronoun verb, Text.same entry.2.subject subject = true))

instance (lexicon : Lexicon) (subject verb : String) : Decidable (lexicon.Addresses subject verb) :=
  inferInstanceAs (Decidable (∃ entry ∈ lexicon.subjectPronoun subject,
    entry.1 = .addressee ∧ Text.same entry.2.verb verb = true))

/-- pronouns with the same subject are of one person in a valid lexicon -/
theorem role_eq_of_same {lexicon : Lexicon} (valid : lexicon.validate = .ok ()) {entry entry' : Role × PronounForms}
    (h : entry ∈ lexicon.pronouns.entries) (h' : entry' ∈ lexicon.pronouns.entries)
    (hsame : Text.same entry.2.subject entry'.2.subject = true) : entry.1 = entry'.1 := by
  have classified : ∀ entry ∈ lexicon.pronouns.entries,
      lexicon.classify entry.2.subject = some (.pronoun entry.1) := fun entry hentry =>
    classify_of_mem_entries valid (mem_entries_pronoun.2 ⟨entry.2, hentry, by simp [PronounForms.cases]⟩)
  have alike : lexicon.classify entry.2.subject = lexicon.classify entry'.2.subject := by
    unfold classify
    rw [Text.lowercase_congr hsame]
  rw [classified entry h, classified entry' h'] at alike
  simpa using alike

end Lexicon

namespace Sentence

open Lexicon

variable {vocabulary : Vocabulary}

/-! ## Openings -/

theorem opensAssignment_iff {subject verb : String} {ws : Words} :
    opensAssignment vocabulary (subject :: verb :: ws) = true ↔ vocabulary.lexicon.Addresses subject verb := by
  simp only [opensAssignment, Addresses, List.headD_cons, List.getD_cons_succ, List.getD_cons_zero]
  cases vocabulary.lexicon.subjectPronoun subject with
  | none => simp
  | some entry =>
    obtain ⟨role, forms⟩ := entry
    cases role <;> simp

/-- a question is about the person of the entry that is found -/
theorem opensQuestion_cases (verb subject : String) (ws : Words) :
    (∃ entry ∈ vocabulary.lexicon.verbPronoun verb, Text.same entry.2.subject subject = true ∧
      opensQuestion vocabulary (verb :: subject :: ws) = some entry.1) ∨
    ¬vocabulary.lexicon.Asks verb subject ∧ opensQuestion vocabulary (verb :: subject :: ws) = none := by
  simp only [opensQuestion, Asks, List.headD_cons, List.getD_cons_succ, List.getD_cons_zero]
  cases vocabulary.lexicon.verbPronoun verb with
  | none => simp
  | some entry => cases hsame : Text.same entry.2.subject subject <;> simp [hsame]

/-- **Words that open with a pronoun or its verb** are an assignment, else a question, else no sentence. -/
theorem parseClause_plain {first : String} (h : Plain first) (sentence second : String) (ws : Words) :
    parseClause vocabulary sentence (first :: second :: ws) =
      if opensAssignment vocabulary (first :: second :: ws) then readAssignment vocabulary ws
      else match opensQuestion vocabulary (first :: second :: ws) with
        | some role => readQuestion vocabulary (.role role) ws
        | none => .error (.unrecognized (Text.trim sentence)) := by
  have noRecall := Words.eat_eq_none (h.opens "recall" (by decide)) (second :: ws)
  have noRemember := Words.eat_eq_none (h.opens "remember" (by decide)) (second :: ws)
  have noValue := Words.eat_eq_none (h.opens "is" (by decide)) (second :: ws)
  cases hopens : opensQuestion vocabulary (first :: second :: ws) <;>
    simp only [parseClause, noRecall, noRemember, noValue, List.drop_succ_cons, List.drop_zero, hopens]

/-- and so are whole sentences -/
theorem parse_plain {sentence first second : String} {ws : Words} (h : Plain first)
    (hwords : Words.ofText sentence = first :: second :: ws) :
    parse vocabulary sentence = parseClause vocabulary sentence (first :: second :: ws) := by
  rw [parse_of_ofText hwords (h.opens "if" (by decide))]
  apply parseSimple_clause
  intro word hword
  apply h.opens
  simp only [List.mem_cons, List.not_mem_nil, or_false] at hword
  rcases hword with rfl | rfl | rfl | rfl <;> decide

/-! ## Answers -/

theorem readAssignment_assigns (ws : Words) :
    Gives (readAssignment vocabulary ws) fun statement => ∃ value, statement = .assign value := by
  have assigned : ∀ rest, Gives (readLastValue vocabulary rest >>= fun value => .ok (Statement.assign value))
      fun statement => ∃ value, statement = .assign value :=
    fun rest => gives_after _ fun value => gives_ok ⟨value, rfl⟩
  unfold readAssignment
  cases Words.eat "as" ws with
  | some rest => exact gives_after _ assigned
  | none => exact assigned ws

theorem readQuestion_compares (lhs : Value) (ws : Words) :
    Gives (readQuestion vocabulary lhs ws) fun statement => ∃ comparison, statement = .compare comparison :=
  gives_after _ fun _ => gives_after _ fun _ => gives_ok ⟨_, rfl⟩

section Value

variable {ws : Words} {value : Value} (hvalue : Phrase.readValue vocabulary ws = .ok (value, []))
include hvalue

theorem readLastValue_eq : readLastValue vocabulary ws = .ok value := by
  simp only [readLastValue, Sentence.readValue, hvalue, reading, bind, Except.bind]
  rfl

/-- an adjective that the lexicon lists compares two values -/
theorem readLikeness_question {adjective : String} (hadjective : (vocabulary.lexicon.adjectivePolarity adjective).isSome)
    (lhs : Value) : readQuestion vocabulary lhs ("as" :: adjective :: "as" :: ws) =
      .ok (.compare ⟨.equal, false, lhs, value⟩) := by
  have plain : Words.eat "not" ("as" :: adjective :: "as" :: ws) = none := rfl
  have relation : readRelation vocabulary ("as" :: adjective :: "as" :: ws) = .ok (.equal, ws) := by
    have likeness : Words.eat "as" ("as" :: adjective :: "as" :: ws) = some (adjective :: "as" :: ws) := rfl
    simp only [readRelation, likeness, readLikeness, readAdjective, hadjective, if_true, bind, Except.bind]
    rfl
  simp only [readQuestion, plain, Option.getD_none, relation, readLastValue_eq hvalue, bind, Except.bind]
  rfl

theorem readAssignment_value (has : ∀ first ∈ ws.head?, Text.same first "as" = false) :
    readAssignment vocabulary ws = .ok (.assign value) := by
  have plain : Words.eat "as" ws = none := by
    cases ws with
    | nil => rfl
    | cons first ws => exact Words.eat_eq_none (has first rfl) ws
  simp only [readAssignment, plain, readLastValue_eq hvalue, bind, Except.bind]
  rfl

end Value

/-! ## Sentences -/

/-- a question about a person, with an adjective -/
theorem ofText_question {verb subject adjective x : String} (hverb : Text.Lettered verb)
    (hsubject : Text.Lettered subject) (hadjective : Text.Lettered adjective)
    (hx : ∀ c ∈ x.toList, isTerminator c = false) :
    Words.ofText (verb ++ " " ++ subject ++ " as " ++ adjective ++ " as " ++ x ++ "?") =
      verb :: subject :: "as" :: adjective :: "as" :: Words.ofText x := by
  have apart : verb ++ " " ++ subject ++ " as " ++ adjective ++ " as " ++ x =
      verb ++ " " ++ subject ++ " " ++ "as" ++ " " ++ adjective ++ " " ++ "as" ++ " " ++ x := by
    simp [← String.toList_inj]
  rw [apart, Words.ofText_terminated _ rfl rfl, Words.ofText_unmarked hx]
  simp only [Words.ofBody_append_space, hverb.ofBody, hsubject.ofBody, hadjective.ofBody]
  rfl

theorem ofText_statement {subject verb x : String} (hsubject : Text.Lettered subject) (hverb : Text.Lettered verb)
    (hx : ∀ c ∈ x.toList, isTerminator c = false) :
    Words.ofText (subject ++ " " ++ verb ++ " " ++ x ++ ".") = subject :: verb :: Words.ofText x := by
  rw [Words.ofText_terminated _ rfl rfl, Words.ofText_unmarked hx]
  simp only [Words.ofBody_append_space, hverb.ofBody, hsubject.ofBody]
  rfl

/-- **A pronoun serves exactly if it is found.** Take a valid lexicon whose pronouns have plain subjects and verbs, any
cast, an adjective of the lexicon, a pronoun of either person, and a text that is read to its end as a value. The
question "verb subject as adjective as text?" compares the person of the pronoun with the value if, and only if, the
first pronoun with its verb has its subject, and the two words the other way round do not open an assignment. The
sentence "subject verb text." assigns the value if, and only if, the first pronoun with its subject is of the second
person and has its verb. -/
theorem parse_pronoun_iff (valid : vocabulary.lexicon.validate = .ok ())
    (plain : ∀ entry ∈ vocabulary.lexicon.pronouns.entries, Plain entry.2.subject ∧ Plain entry.2.verb)
    {role : Role} {forms : PronounForms} (hforms : (role, forms) ∈ vocabulary.lexicon.pronouns.entries)
    {polarity : Polarity} {adjective : String} (hadjective : adjective ∈ vocabulary.lexicon.adjectives.words polarity)
    (letters : Text.Lettered adjective) {x : String} (hx : ∀ c ∈ x.toList, isTerminator c = false)
    (has : ∀ first ∈ (Words.ofText x).head?, Text.same first "as" = false) {value : Value}
    (hvalue : Phrase.readValue vocabulary (Words.ofText x) = .ok (value, [])) :
    (parse vocabulary (forms.verb ++ " " ++ forms.subject ++ " as " ++ adjective ++ " as " ++ x ++ "?") =
        .ok (.compare ⟨.equal, false, .role role, value⟩) ↔
      vocabulary.lexicon.Asks forms.verb forms.subject ∧ ¬vocabulary.lexicon.Addresses forms.verb forms.subject) ∧
    (parse vocabulary (forms.subject ++ " " ++ forms.verb ++ " " ++ x ++ ".") = .ok (.assign value) ↔
      vocabulary.lexicon.Addresses forms.subject forms.verb) := by
  obtain ⟨hsubject, hverb⟩ := plain _ hforms
  constructor
  · have words := ofText_question hverb.letters hsubject.letters letters hx
    rw [parse_plain hverb words, parseClause_plain hverb]
    by_cases haddress : vocabulary.lexicon.Addresses forms.verb forms.subject
    · rw [if_pos (opensAssignment_iff.2 haddress)]
      refine iff_of_false (fun hparse => ?_) fun h => h.2 haddress
      obtain ⟨assigned, hassigned⟩ := readAssignment_assigns _ _ hparse
      cases hassigned
    · rw [if_neg fun opens => haddress (opensAssignment_iff.1 opens)]
      rcases opensQuestion_cases forms.verb forms.subject
        ("as" :: adjective :: "as" :: Words.ofText x) with ⟨entry, hentry, hsame, hopens⟩ | ⟨hnot, hopens⟩
      · have found : entry ∈ vocabulary.lexicon.pronouns.entries := List.mem_of_find?_eq_some hentry
        have person : entry.1 = role := role_eq_of_same valid found hforms hsame
        have known : (vocabulary.lexicon.adjectivePolarity adjective).isSome = true := by
          rw [adjectivePolarity_of_mem valid (mem_entries_adjective.2 hadjective)]
          rfl
        rw [hopens, person]
        exact iff_of_true (readLikeness_question hvalue known _) ⟨⟨entry, hentry, hsame⟩, haddress⟩
      · rw [hopens]
        exact iff_of_false nofun fun h => hnot h.1
  · have words := ofText_statement hsubject.letters hverb.letters hx
    rw [parse_plain hsubject words, parseClause_plain hsubject]
    by_cases haddress : vocabulary.lexicon.Addresses forms.subject forms.verb
    · rw [if_pos (opensAssignment_iff.2 haddress)]
      exact iff_of_true (readAssignment_value hvalue has) haddress
    · rw [if_neg fun opens => haddress (opensAssignment_iff.1 opens)]
      refine iff_of_false (fun hparse => ?_) haddress
      rcases opensQuestion_cases forms.subject forms.verb (Words.ofText x) with ⟨entry, -, -, hopens⟩ | ⟨-, hopens⟩
      · rw [hopens] at hparse
        obtain ⟨comparison, hcompared⟩ := readQuestion_compares _ _ _ hparse
        cases hcompared
      · rw [hopens] at hparse
        cases hparse

/-- the older form of a pronoun, which is not the first of its person -/
theorem parse_pronoun_iff_thou :
    let lexicon : Lexicon := ⟨⟨["cat"], ["stone"], ["pig"]⟩, ⟨["good"], ["big"], ["bad"]⟩, ⟨["better"], ["worse"]⟩,
      ⟨[⟨"I", "me", "myself", "am"⟩], [⟨"you", "you", "yourself", "are"⟩, ⟨"Thou", "thee", "thyself", "art"⟩]⟩,
      ["I", "II"], ["Romeo", "Juliet"]⟩
    let vocabulary := Vocabulary.of lexicon ⟨[], [(⟨"romeo"⟩, "Romeo")]⟩
    let value := Value.binary .add (.character ⟨"romeo"⟩) (.role .addressee)
    parse vocabulary "art Thou as good as the sum of Romeo and thyself?" =
        .ok (.compare ⟨.equal, false, .role .addressee, value⟩) ∧
      parse vocabulary "Thou art the sum of Romeo and thyself." = .ok (.assign value) := by
  intro lexicon vocabulary value
  have valid : vocabulary.lexicon.validate = .ok () := eq_ok_of_toOption (by decide)
  have plain : ∀ entry ∈ vocabulary.lexicon.pronouns.entries, Plain entry.2.subject ∧ Plain entry.2.verb := by
    decide
  have thou : (.addressee, ⟨"Thou", "thee", "thyself", "art"⟩) ∈ vocabulary.lexicon.pronouns.entries := by decide
  have good : "good" ∈ vocabulary.lexicon.adjectives.words .positive := by decide
  have said : Phrase.readValue vocabulary (Words.ofText "the sum of Romeo and thyself") = .ok (value, []) :=
    eq_ok_of_toOption (by decide)
  have unmarked : ∀ c ∈ "the sum of Romeo and thyself".toList, isTerminator c = false := fun c hc =>
    Bool.eq_false_iff.2 (List.any_eq_false.1 (by decide) c hc)
  obtain ⟨question, statement⟩ := parse_pronoun_iff valid plain thou good (by decide) unmarked (by decide) said
  have asks : lexicon.Asks "art" "Thou" ∧ ¬lexicon.Addresses "art" "Thou" := by decide
  have addresses : lexicon.Addresses "Thou" "art" := by decide
  exact ⟨question.2 asks, statement.2 addresses⟩

/-- **A pronoun can be out of reach in a valid lexicon.** "We" and "you" share a verb, and "we" stands first. -/
theorem parse_pronoun_shadowed :
    let lexicon : Lexicon := ⟨⟨["cat"], ["stone"], ["pig"]⟩, ⟨["good"], ["big"], ["bad"]⟩, ⟨["better"], ["worse"]⟩,
      ⟨[⟨"I", "me", "myself", "am"⟩, ⟨"we", "us", "ourselves", "are"⟩], [⟨"you", "you", "yourself", "are"⟩]⟩,
      ["I", "II", "III"], ["Romeo", "Juliet"]⟩
    let vocabulary := Vocabulary.of lexicon (Cast.ofLexicon lexicon)
    lexicon.validate = .ok () ∧ (∀ entry ∈ lexicon.pronouns.entries, Plain entry.2.subject ∧ Plain entry.2.verb) ∧
      "good" ∈ lexicon.adjectives.words .positive ∧
      Phrase.readValue vocabulary (Words.ofText "a cat") = .ok (.constant 1, []) ∧
      lexicon.pronoun .addressee = some ⟨"you", "you", "yourself", "are"⟩ ∧
      parse vocabulary "are you as good as a cat?" = .error (.unrecognized "are you as good as a cat?") := by
  intro lexicon vocabulary
  have valid : lexicon.validate = .ok () := eq_ok_of_toOption (by decide)
  have said : Phrase.readValue vocabulary (Words.ofText "a cat") = .ok (.constant 1, []) :=
    eq_ok_of_toOption (by decide)
  exact ⟨valid, by decide, by decide, said, rfl, by rfl⟩

end Sentence

end Playscript
