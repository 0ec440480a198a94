/-
What one line can do to a draft.

- `Draft.Advances`: what a draft becomes by a line, with all that is read from the line;
- `Draft.Refuses`: why a line cannot be taken, with the error that tells so;
- `step_stepped`: a line below the title does one of these things; `advances_of_step`, `refuses_of_step`.
-/
import Playscript.Proofs.Play.Drafts

namespace Playscript

namespace Draft

/-- what a draft that has its title becomes by a line -/
inductive Advances (draft : Draft) (line : List Char) : Draft → Prop where
  | persona {persona : Persona} : draft.acts = [] → heading? "Act" line = none → persona? line = some persona →
    Advances draft line { draft with personae := draft.personae ++ [persona] }
  | act {heading : Heading} : heading? "Act" line = some heading →
    Advances draft line { draft.closeSpeech with
      acts := draft.closeSpeech.acts ++ [⟨heading.numeral, heading.description, []⟩] }
  | scene {heading : Heading} : draft.acts ≠ [] → heading? "Act" line = none → heading? "Scene" line = some heading →
    Advances draft line (draft.closeSpeech.addScene ⟨heading.numeral, heading.description, []⟩)
  | direction {inner : List Char} : draft.inScene = true → line = '[' :: (inner ++ [']']) →
    Advances draft line (draft.closeSpeech.addLine (.direction (String.ofList (Text.trimChars inner))))
  | speaker {front : List Char} {name : String} : draft.inScene = true → lineKind line = .speaker →
    line = front ++ [':'] → draft.speaker? (String.ofList (Text.trimChars front)) = some name →
    Advances draft line { draft.closeSpeech with speech := some (name, "") }
  | text {speaker said : String} : draft.acts ≠ [] → lineKind line = .text → draft.speech = some (speaker, said) →
    Advances draft line (draft.speaking speaker (extended said line))

/-- why a draft that has its title cannot take a line, and the error that says so -/
inductive Refuses (draft : Draft) (n : Nat) (line : List Char) : PlayError → Prop where
  | persona : draft.acts = [] → heading? "Act" line = none → persona? line = none →
    Refuses draft n line (.persona n (String.ofList line))
  | unterminated : draft.acts ≠ [] → line.head? = some '[' → line.tail.getLast? ≠ some ']' →
    Refuses draft n line (.unterminatedDirection n (String.ofList line))
  | direction {inner : List Char} : draft.inScene = false → line = '[' :: (inner ++ [']']) →
    Refuses draft n line (.stray n (String.ofList line))
  | unknownSpeaker {front : List Char} : lineKind line = .speaker → line = front ++ [':'] →
    draft.speaker? (String.ofList (Text.trimChars front)) = none →
    Refuses draft n line (.unknownSpeaker n (String.ofList (Text.trimChars front)))
  | speaker : draft.inScene = false → lineKind line = .speaker → Refuses draft n line (.stray n (String.ofList line))
  | text : draft.acts ≠ [] → lineKind line = .text → draft.speech = none →
    Refuses draft n line (.stray n (String.ofList line))

/-- every outcome that a line can have -/
inductive Stepped (draft : Draft) (n : Nat) (line : List Char) : Except PlayError Draft → Prop where
  | advances {next : Draft} : draft.Advances line next → Stepped draft n line (.ok next)
  | refuses {error : PlayError} : draft.Refuses n line error → Stepped draft n line (.error error)

/-- a line that is no heading, below the first act's -/
theorem readLine_stepped {draft : Draft} (n : Nat) {line : List Char} (below : draft.acts ≠ [])
    (hact : heading? "Act" line = none) (hscene : heading? "Scene" line = none) :
    Stepped draft n line (draft.readLine n line) := by
  by_cases hopen : line.head? = some '['
  · simp only [readLine, if_pos hopen]
    by_cases hclosed : line.tail.getLast? = some ']'
    · obtain ⟨inner, hinner⟩ := List.getLast?_eq_some_iff.1 hclosed
      have brackets : line = '[' :: (inner ++ [']']) := by
        obtain ⟨tail, rfl⟩ := List.head?_eq_some_iff.1 hopen
        rw [← hinner, List.tail_cons]
      rw [if_neg (not_not.2 hclosed), hinner, List.dropLast_concat]
      split_ifs with hin
      · exact .advances (.direction hin brackets)
      · exact .refuses (.direction (Bool.eq_false_iff.2 hin) brackets)
    · rw [if_pos hclosed]
      exact .refuses (.unterminated below hopen hclosed)
  · simp only [readLine, if_neg hopen]
    by_cases hcolon : line.getLast? = some ':'
    · rw [if_pos hcolon]
      have kind := lineKind_eq_speaker_iff.2 ⟨hact, hscene, hopen, hcolon⟩
      obtain ⟨front, rfl⟩ := List.getLast?_eq_some_iff.1 hcolon
      rw [List.dropLast_concat]
      cases hname : draft.speaker? (String.ofList (Text.trimChars front)) with
      | none => exact .refuses (.unknownSpeaker kind rfl hname)
      | some name =>
        dsimp only
        split_ifs with hin
        · exact .advances (.speaker hin kind rfl hname)
        · exact .refuses (.speaker (Bool.eq_false_iff.2 hin) kind)
    · rw [if_neg hcolon]
      have kind := lineKind_eq_text_iff.2 ⟨hact, hscene, hopen, hcolon⟩
      unfold continueSpeech
      cases hspeech : draft.speech with
      | none => exact .refuses (.text below kind hspeech)
      | some speech => exact .advances (.text below kind hspeech)

/-- **A line is taken by its kind, or refused by its kind.** -/
theorem step_stepped {draft : Draft} (titled : draft.title ≠ none) (n : Nat) (line : List Char) :
    Stepped draft n line (draft.step (n, line)) := by
  simp only [step, if_neg titled]
  cases hact : heading? "Act" line with
  | some heading => exact .advances (.act hact)
  | none =>
    dsimp only
    by_cases hacts : draft.acts.isEmpty = true
    · rw [if_pos hacts]
      have above := List.isEmpty_iff.1 hacts
      cases hpersona : persona? line with
      | none => exact .refuses (.persona above hact hpersona)
      | some persona => exact .advances (.persona above hact hpersona)
    · rw [if_neg hacts]
      have below : draft.acts ≠ [] := mt List.isEmpty_iff.2 hacts
      cases hscene : heading? "Scene" line with
      | some heading => exact .advances (.scene below hact hscene)
      | none => exact readLine_stepped n below hact hscene

theorem advances_of_step {draft next : Draft} {n : Nat} {line : List Char} (titled : draft.title ≠ none)
    (h : draft.step (n, line) = .ok next) : draft.Advances line next := by
  have stepped := step_stepped titled n line
  rw [h] at stepped
  cases stepped with
  | advances advances => exact advances

theorem refuses_of_step {draft : Draft} {n : Nat} {line : List Char} {error : PlayError} (titled : draft.title ≠ none)
    (h : draft.step (n, line) = .error error) : draft.Refuses n line error := by
  have stepped := step_stepped titled n line
  rw [h] at stepped
  cases stepped with
  | refuses refuses => exact refuses

end Draft

end Playscript
