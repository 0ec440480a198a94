/-
Reading on where a play has ended.

- `numberedFrom`: the numbered lines of a text whose first line has a given number; a line feed separates
  (`numberedFrom_newline`), and a line with no blanks at its ends comes out as it is (`numberedFrom_tight`);
- `Play.Paused`, `exists_paused`: what stands below a play is read from the draft that the play was;
- `step_announcing`: a line that is a word and a colon announces a speaker, known or not;
- `parse_announcing`: so such a line below a play gives a speech to whoever speaks under the word, and what follows is
  read alike below all words for that character (`parse_announced`).
-/
import Playscript.Proofs.Play.Tally

namespace Playscript

/-! ## Lines and their numbers -/

/-- the lines that are not blank, trimmed, with their numbers, where the first line has number `n` -/
def numberedFrom (n : Nat) (cs : List Char) : List (Nat × List Char) :=
  (((splitLines cs).zipIdx n).map fun (line, k) => (k, Text.trimChars line)).filter fun (_, line) => !line.isEmpty

theorem numberedLines_eq (text : String) : numberedLines text = numberedFrom 1 text.toList := rfl

theorem numberedFrom_newline (n : Nat) (cs ds : List Char) : numberedFrom n (cs ++ '\n' :: ds) =
    numberedFrom n cs ++ numberedFrom (n + (splitLines cs).length) ds := by
  rw [numberedFrom, splitLines_newline, List.zipIdx_append, List.map_append, List.filter_append]
  rfl

theorem numberedFrom_tight (n : Nat) {line : List Char} (h : Text.Tight line) (hline : '\n' ∉ line) :
    numberedFrom n line = [(n, line)] := by
  rw [numberedFrom, splitLines_of_not_mem hline, List.zipIdx_singleton, List.map_singleton]
  simp [h.trimChars, h.ne_nil]

/-- a line without blanks is no heading -/
theorem heading?_solid (keyword : String) {line : List Char} (h : Text.Solid line) : heading? keyword line = none := by
  refine Option.eq_none_iff_forall_ne_some.2 fun heading hheading => ?_
  obtain ⟨front, before, after, parts, -⟩ := exists_headingParts hheading
  have hspace : ' ' ∈ line := by simp [parts.cut]
  exact absurd (h ' ' hspace) (by decide)

namespace Draft

theorem steps_append (draft : Draft) (front back : List (Nat × List Char)) :
    draft.steps (front ++ back) = (do
      let middle ← draft.steps front
      middle.steps back) := by
  induction front generalizing draft with
  | nil => rfl
  | cons line front ih =>
    rw [List.cons_append, steps, steps]
    cases draft.step line with
    | error cause => rfl
    | ok next => exact ih next

/-! ## Speakers -/

/-- **A word and a colon announce whoever speaks under the word**, if anybody does. -/
theorem step_announcing {draft : Draft} (titled : draft.title ≠ none) (hin : draft.inScene = true) {word : String}
    (hsolid : Text.Solid word.toList) (hopen : word.toList.head? ≠ some '[') (n : Nat) :
    draft.step (n, word.toList ++ [':']) =
      match draft.speaker? word with
      | none => .error (.unknownSpeaker n word)
      | some speaker => .ok { draft.closeSpeech with speech := some (speaker, "") } := by
  have solid : Text.Solid (word.toList ++ [':']) := by
    intro c hc
    rcases List.mem_append.1 hc with hc | hc
    · exact hsolid c hc
    · rw [List.mem_singleton.1 hc]
      rfl
  have below : draft.acts.isEmpty = false := by simpa using acts_ne_nil_of_inScene hin
  have opened : (word.toList ++ [':']).head? ≠ some '[' := by
    cases hword : word.toList with
    | nil => decide
    | cons c cs => rwa [hword] at hopen
  have named : String.ofList (Text.trimChars (word.toList ++ [':']).dropLast) = word := by
    rw [List.dropLast_concat, Text.trimChars_of_solid hsolid, String.ofList_toList]
  cases hspeaker : draft.speaker? word <;>
    simp only [step, if_neg titled, heading?_solid _ solid, below, Bool.false_eq_true, if_false, readLine,
      if_neg opened, List.getLast?_concat, if_true, named, hin, hspeaker]

end Draft

/-! ## Plays -/

namespace Play

/-- the character who speaks under this name -/
def speaker? (play : Play) (name : String) : Option String :=
  (play.personae.find? fun persona => Text.same persona.name name).map (·.name)

/-- whether the play ends inside a scene -/
def InScene (play : Play) : Prop := ∃ act ∈ play.acts.getLast?, act.scenes ≠ []

/-- the play with one line more in the scene that it ends in -/
def addLine (play : Play) (line : PlayLine) : Play :=
  let grow := fun scene : PlayScene => { scene with lines := scene.lines ++ [line] }
  { play with acts := modifyLast (fun act => { act with scenes := modifyLast grow act.scenes }) play.acts }

/-- the draft `last` is what `before` leads to, where `play` ends, and a line below has number `n` -/
structure Paused (before : String) (play : Play) (last : Draft) (n : Nat) : Prop where
  title : last.title = some play.title
  personae : play.personae = last.personae
  acts : play.acts = last.closeSpeech.acts
  more : ∀ below : String, Play.parse (before ++ "\n" ++ below) = (do
    let draft ← last.steps (numberedFrom n below.toList)
    draft.finish)

/-- **What stands below a play is read from the draft that the play was.** -/
theorem exists_paused {before : String} {play : Play} (h : Play.parse before = .ok play) :
    ∃ last n, Paused before play last n := by
  obtain ⟨last, hsteps, hfinish⟩ := bind_eq_ok.1 h
  obtain ⟨htitle, hpersonae, hacts⟩ := Draft.eq_of_finish hfinish
  refine ⟨last, 1 + (splitLines before.toList).length, htitle, hpersonae, hacts, fun below => ?_⟩
  have text : (before ++ "\n" ++ below).toList = before.toList ++ '\n' :: below.toList := by simp
  rw [numberedLines_eq] at hsteps
  rw [Play.parse, numberedLines_eq, text, numberedFrom_newline, Draft.steps_append, hsteps]
  rfl

section Announcing

variable {before : String} {play : Play} {last : Draft} {n : Nat} {word : String}

theorem Paused.inScene (h : Paused before play last n) (hin : play.InScene) : last.inScene = true := by
  obtain ⟨act, hact, hscenes⟩ := hin
  rw [← Draft.inScene_closeSpeech, Draft.inScene, ← h.acts, Option.mem_def.1 hact]
  simpa using hscenes

/-- the line that announces is taken first, whatever comes after it -/
theorem Paused.step (h : Paused before play last n) (hin : play.InScene) (hsolid : Text.Solid word.toList)
    (hopen : word.toList.head? ≠ some '[') : last.step (n, word.toList ++ [':']) =
      match play.speaker? word with
      | none => .error (.unknownSpeaker n word)
      | some speaker => .ok { last.closeSpeech with speech := some (speaker, "") } := by
  have titled : last.title ≠ none := by simp [h.title]
  have speakers : play.speaker? word = last.speaker? word := by rw [speaker?, h.personae, Draft.speaker?]
  rw [speakers]
  exact Draft.step_announcing titled (h.inScene hin) hsolid hopen n

/-- a speech that has just begun when the text ends has no sentences -/
theorem Paused.finish (h : Paused before play last n) (speaker : String) :
    Draft.finish { last.closeSpeech with speech := some (speaker, "") } =
      .ok (play.addLine (.speech speaker [])) := by
  have title : last.closeSpeech.title = some play.title := by rw [Draft.title_closeSpeech, h.title]
  have personae : last.closeSpeech.personae = play.personae := by rw [Draft.personae_closeSpeech, h.personae]
  rw [addLine, h.acts, Draft.finish, title, personae]
  rfl

theorem line_announcing (hsolid : Text.Solid word.toList) :
    Text.Tight (word.toList ++ [':']) ∧ '\n' ∉ word.toList ++ [':'] := by
  refine ⟨Text.trimChars_of_solid hsolid ▸ Text.tight_mark word.toList rfl, fun hmem => ?_⟩
  rcases List.mem_append.1 hmem with hmem | hmem
  · exact absurd (hsolid _ hmem) (by decide)
  · exact absurd (List.mem_singleton.1 hmem) (by decide)

/-- **A word and a colon below a play that ends inside a scene** give a speech to whoever speaks under the word, or else
the text is no play. -/
theorem parse_announcing (h : Paused before play last n) (hin : play.InScene) (hsolid : Text.Solid word.toList)
    (hopen : word.toList.head? ≠ some '[') : Play.parse (before ++ "\n" ++ (word ++ ":")) =
      match play.speaker? word with
      | none => .error (.unknownSpeaker n word)
      | some speaker => .ok (play.addLine (.speech speaker [])) := by
  obtain ⟨tight, newline⟩ := line_announcing hsolid
  have line : (word ++ ":").toList = word.toList ++ [':'] := by simp
  rw [h.more, line, numberedFrom_tight n tight newline, Draft.steps, h.step hin hsolid hopen]
  cases play.speaker? word with
  | none => rfl
  | some speaker => exact h.finish speaker

/-- **Whatever follows is read alike below all words under which one character speaks.** -/
theorem parse_announced {other speaker after : String} (h : Play.parse before = .ok play) (hin : play.InScene)
    (hsolid : Text.Solid word.toList) (hopen : word.toList.head? ≠ some '[') (hsolid' : Text.Solid other.toList)
    (hopen' : other.toList.head? ≠ some '[') (hword : play.speaker? word = some speaker)
    (hother : play.speaker? other = some speaker) : Play.parse (before ++ "\n" ++ (word ++ ":\n" ++ after)) =
      Play.parse (before ++ "\n" ++ (other ++ ":\n" ++ after)) := by
  obtain ⟨last, n, paused⟩ := exists_paused h
  have read : ∀ {word : String}, Text.Solid word.toList → word.toList.head? ≠ some '[' →
      play.speaker? word = some speaker → Play.parse (before ++ "\n" ++ (word ++ ":\n" ++ after)) = (do
        let draft ← Draft.steps { last.closeSpeech with speech := some (speaker, "") }
          (numberedFrom (n + 1) after.toList)
        draft.finish) := by
    intro word hsolid hopen hword
    obtain ⟨tight, newline⟩ := line_announcing hsolid
    have step := paused.step hin hsolid hopen
    rw [hword] at step
    have text : (word ++ ":\n" ++ after).toList = word.toList ++ [':'] ++ '\n' :: after.toList := by simp
    rw [paused.more, text, numberedFrom_newline, numberedFrom_tight n tight newline, splitLines_of_not_mem newline,
      List.singleton_append, Draft.steps, step]
    rfl
  rw [read hsolid hopen hword, read hsolid' hopen' hother]

end Announcing

end Play

end Playscript
