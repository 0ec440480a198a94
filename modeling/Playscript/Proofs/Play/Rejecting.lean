/-
Why a text is no play, and which of its lines is to blame.

- `PlayError.line?`, `PlayError.Quotes`: the number that an error carries, and the line that it quotes;
- `Refuses.quotes`, `quotes_of_step`: a line that cannot be taken is quoted by the error, under its number;
- `numbered`, `numberedFrom_eq_numbered`: what a reader sees of a text depends on its lines without the blanks at their
  ends only (`trimmedLines`);
- `exists_of_steps_error`: lines fail at the first one that cannot be taken;
- `Blamed`: the line that is to blame for an error, and what stands above it;
- `parse_error_points`: an error points at the first bad line, and nothing below that line matters.
-/
import Playscript.Proofs.Play.Continuing
import Playscript.Proofs.Text.Lines

namespace Playscript

/-! ## Errors -/

namespace PlayError

/-- the number of the line that an error is about; a missing title is about none -/
def line? : PlayError → Option Nat
  | .missingTitle => none
  | .persona n _ => some n
  | .unknownSpeaker n _ => some n
  | .stray n _ => some n
  | .unterminatedDirection n _ => some n

/-- whether an error quotes a line: all of it, or what stands before the colon at its end if that should be a name -/
def Quotes (line : List Char) : PlayError → Prop
  | .missingTitle => False
  | .persona _ text => text = String.ofList line
  | .unknownSpeaker _ name => ∃ front, line = front ++ [':'] ∧ name = String.ofList (Text.trimChars front)
  | .stray _ text => text = String.ofList line
  | .unterminatedDirection _ text => text = String.ofList line

end PlayError

namespace Draft

/-- whatever is wrong with a line, its error quotes it and carries its number -/
theorem Refuses.quotes {draft : Draft} {n : Nat} {line : List Char} {error : PlayError}
    (h : draft.Refuses n line error) : error.line? = some n ∧ error.Quotes line := by
  cases h with
  | unknownSpeaker _ hline _ => exact ⟨rfl, _, hline, rfl⟩
  | persona | unterminated | direction | speaker | text => exact ⟨rfl, rfl⟩

/-- **A line that cannot be taken is quoted**, under its number; the first line of a text can always be taken. -/
theorem quotes_of_step {draft : Draft} {n : Nat} {line : List Char} {error : PlayError}
    (h : draft.step (n, line) = .error error) :
    draft.title ≠ none ∧ error.line? = some n ∧ error.Quotes line := by
  by_cases htitle : draft.title = none
  · simp only [step, if_pos htitle] at h
    cases h
  · exact ⟨htitle, (refuses_of_step htitle h).quotes⟩

/-- **Lines fail at the first one that cannot be taken.** -/
theorem exists_of_steps_error {draft : Draft} {lines : List (Nat × List Char)} {error : PlayError}
    (h : draft.steps lines = .error error) : ∃ front line back middle, lines = front ++ line :: back ∧
      draft.steps front = .ok middle ∧ middle.step line = .error error := by
  induction lines generalizing draft with
  | nil => cases h
  | cons line lines ih =>
    rw [steps] at h
    cases hstep : draft.step line with
    | error cause =>
      rw [hstep] at h
      cases h
      exact ⟨[], line, lines, draft, rfl, rfl, hstep⟩
    | ok next =>
      rw [hstep] at h
      obtain ⟨front, bad, back, middle, rfl, hfront, hbad⟩ := ih h
      refine ⟨line :: front, bad, back, middle, rfl, ?_, hbad⟩
      rw [steps, hstep]
      exact hfront

end Draft

/-! ## Lines -/

/-- the lines of a text without the blanks at their ends -/
def trimmedLines (cs : List Char) : List (List Char) := (textLines cs).map Text.trimChars

/-- the lines that are not empty, with their numbers, where the first line has number `n` -/
def numbered (n : Nat) (lines : List (List Char)) : List (Nat × List Char) :=
  ((lines.zipIdx n).map fun (line, k) => (k, line)).filter fun (_, line) => !line.isEmpty

theorem numbered_append (n : Nat) (front back : List (List Char)) :
    numbered n (front ++ back) = numbered n front ++ numbered (n + front.length) back := by
  rw [numbered, List.zipIdx_append, List.map_append, List.filter_append]
  rfl

theorem numbered_cons (n : Nat) {line : List Char} (h : line ≠ []) (lines : List (List Char)) :
    numbered n (line :: lines) = (n, line) :: numbered (n + 1) lines := by
  simp [numbered, h]

theorem numbered_cons_nil (n : Nat) (lines : List (List Char)) : numbered n ([] :: lines) = numbered (n + 1) lines := by
  simp [numbered]

/-- a numbered line stands where its number says, and the numbered lines before it are those above it -/
theorem exists_of_numbered_eq {n k : Nat} {lines : List (List Char)} {line : List Char}
    {front back : List (Nat × List Char)} (h : numbered n lines = front ++ (k, line) :: back) :
    ∃ before after, lines = before ++ line :: after ∧ line ≠ [] ∧ k = n + before.length ∧
      front = numbered n before := by
  induction lines generalizing n front with
  | nil => simp [numbered] at h
  | cons first lines ih =>
    by_cases hfirst : first = []
    · rw [hfirst, numbered_cons_nil] at h
      obtain ⟨before, after, rfl, hne, rfl, rfl⟩ := ih h
      refine ⟨first :: before, after, rfl, hne, ?_, ?_⟩
      · rw [List.length_cons]
        omega
      · rw [hfirst, numbered_cons_nil]
    · rw [numbered_cons n hfirst] at h
      cases front with
      | nil =>
        cases h
        exact ⟨[], lines, rfl, hfirst, rfl, rfl⟩
      | cons shown front =>
        rw [List.cons_append, List.cons.injEq] at h
        obtain ⟨before, after, rfl, hne, rfl, rfl⟩ := ih h.2
        refine ⟨first :: before, after, rfl, hne, ?_, ?_⟩
        · rw [List.length_cons]
          omega
        · rw [numbered_cons n hfirst, h.1]

/-- the lines between line feeds, but for an empty one at the end, are the lines with their line feeds -/
theorem exists_splitLines (cs : List Char) : ∃ front last, splitLines cs = front ++ [last] ∧
    textLines cs = front.map (· ++ ['\n']) ++ if last = [] then [] else [last] := by
  induction cs with
  | nil => exact ⟨[], [], rfl, rfl⟩
  | cons c cs ih =>
    obtain ⟨front, last, hsplit, htext⟩ := ih
    rw [splitLines, textLines, hsplit, htext]
    split_ifs with hc hlast hlast
    · exact ⟨[] :: front, last, rfl, by rw [hc, hlast]; rfl⟩
    · exact ⟨[] :: front, last, rfl, by rw [hc, if_neg hlast]; rfl⟩
    · cases front with
      | nil => exact ⟨[], [c], by rw [hlast]; rfl, rfl⟩
      | cons line front => exact ⟨(c :: line) :: front, last, rfl, by rw [if_pos hlast]; rfl⟩
    · cases front with
      | nil => exact ⟨[], c :: last, rfl, rfl⟩
      | cons line front => exact ⟨(c :: line) :: front, last, rfl, by rw [if_neg hlast]; rfl⟩

/-- **What a reader sees of a text depends on its trimmed lines only.** -/
theorem numberedFrom_eq_numbered (n : Nat) (cs : List Char) : numberedFrom n cs = numbered n (trimmedLines cs) := by
  obtain ⟨front, last, hsplit, htext⟩ := exists_splitLines cs
  have trimmed : (splitLines cs).map Text.trimChars = trimmedLines cs ++ if last = [] then [[]] else [] := by
    have ended : (front.map (· ++ ['\n'])).map Text.trimChars = front.map Text.trimChars := by
      rw [List.map_map]
      exact List.map_congr_left fun line _ => Text.trimChars_append_blank line (by decide)
    rw [trimmedLines, hsplit, htext, List.map_append, List.map_append, ended]
    split_ifs with hlast
    · rw [hlast]
      simp [Text.trimChars_nil]
    · simp
  have numbers : numberedFrom n cs = numbered n ((splitLines cs).map Text.trimChars) := by
    rw [numberedFrom, numbered, List.zipIdx_map, List.map_map]
    rfl
  rw [numbers, trimmed, numbered_append]
  split_ifs
  · rw [numbered_cons_nil]
    exact List.append_nil _
  · exact List.append_nil _

/-! ## Plays -/

theorem parse_eq_numbered (text : String) : Play.parse text = (do
    let draft ← Draft.blank.steps (numbered 1 (trimmedLines text.toList))
    draft.finish) := by
  rw [Play.parse, numberedLines_eq, numberedFrom_eq_numbered]

/-- below the lines `before`, of which the draft `middle` is made, stands a line that cannot be taken -/
structure Blamed (lines before : List (List Char)) (line : List Char) (middle : Draft) (error : PlayError) : Prop where
  place : ∃ after, lines = before ++ line :: after
  shown : line ≠ []
  titled : middle.title ≠ none
  above : Draft.blank.steps (numbered 1 before) = .ok middle
  refused : middle.step (1 + before.length, line) = .error error

/-- an error that carries a number blames a line -/
theorem exists_blamed {text : String} {error : PlayError} {n : Nat} (h : Play.parse text = .error error)
    (hline : error.line? = some n) :
    ∃ before line middle, Blamed (trimmedLines text.toList) before line middle error := by
  rw [parse_eq_numbered] at h
  cases hsteps : Draft.blank.steps (numbered 1 (trimmedLines text.toList)) with
  | ok last =>
    rw [hsteps] at h
    -- at the end of a text only a title can be missing
    change last.finish = .error error at h
    unfold Draft.finish at h
    split at h <;> cases h
    cases hline
  | error cause =>
    rw [hsteps] at h
    cases h
    obtain ⟨front, ⟨k, line⟩, back, middle, hlines, habove, hrefused⟩ := Draft.exists_of_steps_error hsteps
    obtain ⟨before, after, htext, hne, rfl, rfl⟩ := exists_of_numbered_eq hlines
    exact ⟨before, line, middle, ⟨after, htext⟩, hne, (Draft.quotes_of_step hrefused).1, habove, hrefused⟩

section Blamed

variable {lines lines' before : List (List Char)} {line : List Char} {middle : Draft} {error : PlayError}

/-- the line is the one that the error quotes -/
theorem Blamed.quotes (h : Blamed lines before line middle error) :
    error.line? = some (1 + before.length) ∧ lines[before.length]? = some line ∧ error.Quotes line := by
  obtain ⟨-, hnumber, hquotes⟩ := Draft.quotes_of_step h.refused
  obtain ⟨after, rfl⟩ := h.place
  refine ⟨hnumber, ?_, hquotes⟩
  rw [List.getElem?_append_right le_rfl, Nat.sub_self, List.getElem?_cons_zero]

/-- a text that ends above the line is a play -/
theorem Blamed.accepted (h : Blamed lines before line middle error) {text : String}
    (htext : trimmedLines text.toList = lines.take before.length) : ∃ play, Play.parse text = .ok play := by
  obtain ⟨after, rfl⟩ := h.place
  obtain ⟨title, htitle⟩ := Option.ne_none_iff_exists'.1 h.titled
  rw [List.take_left] at htext
  refine ⟨⟨title, middle.personae, middle.closeSpeech.acts⟩, ?_⟩
  rw [parse_eq_numbered, htext, h.above]
  simp only [bind, Except.bind, Draft.finish, htitle]

/-- nothing below the line matters to what is blamed -/
theorem Blamed.shared (h : Blamed lines before line middle error)
    (hlines : lines'.take (1 + before.length) = lines.take (1 + before.length)) :
    Blamed lines' before line middle error := by
  obtain ⟨after, rfl⟩ := h.place
  have upTo : (before ++ line :: after).take (1 + before.length) = before ++ [line] := by
    rw [Nat.add_comm, List.take_length_add_append]
    rfl
  refine { h with place := ⟨lines'.drop (1 + before.length), ?_⟩ }
  calc lines' = lines'.take (1 + before.length) ++ lines'.drop (1 + before.length) :=
        (List.take_append_drop _ _).symm
    _ = before ++ [line] ++ lines'.drop (1 + before.length) := by rw [hlines, upTo]
    _ = before ++ line :: lines'.drop (1 + before.length) := (List.append_cons before line _).symm

/-- a text fails at the line that is blamed, whatever follows it -/
theorem Blamed.parse {text : String} (h : Blamed (trimmedLines text.toList) before line middle error) :
    Play.parse text = .error error := by
  obtain ⟨after, htext⟩ := h.place
  rw [parse_eq_numbered, htext, numbered_append, numbered_cons _ h.shown, Draft.steps_append, h.above]
  simp only [bind, Except.bind, Draft.steps, h.refused]

end Blamed

/-- **An error points at the first bad line**: it quotes the line under its number, the lines above that line are a play,
and every text with the same lines up to there fails alike, whatever follows and whatever blanks end its lines. -/
theorem parse_error_points {text : String} {error : PlayError} {n : Nat} (h : Play.parse text = .error error)
    (hline : error.line? = some n) : 0 < n ∧
      (∃ line, (textLines text.toList)[n - 1]? = some line ∧ error.Quotes (Text.trimChars line)) ∧
      (∃ play, Play.parse (String.ofList ((textLines text.toList).take (n - 1)).flatten) = .ok play) ∧
      ∀ other : String, (trimmedLines other.toList).take n = (trimmedLines text.toList).take n →
        Play.parse other = .error error := by
  obtain ⟨before, line, middle, blamed⟩ := exists_blamed h hline
  obtain ⟨hnumber, hplace, hquotes⟩ := blamed.quotes
  obtain rfl : 1 + before.length = n := Option.some.inj (hnumber.symm.trans hline)
  rw [Nat.add_sub_cancel_left]
  refine ⟨Nat.add_pos_left Nat.one_pos _, ?quoted, ?accepted, fun other hother => (blamed.shared hother).parse⟩
  case quoted =>
    rw [trimmedLines, List.getElem?_map] at hplace
    obtain ⟨raw, hraw, rfl⟩ := Option.map_eq_some_iff.1 hplace
    exact ⟨raw, hraw, hquotes⟩
  case accepted =>
    refine blamed.accepted ?_
    rw [String.toList_ofList, trimmedLines, textLines_take, List.map_take]
    rfl

/-- the speaker on the seventh line, below two blank ones, is not in the cast -/
theorem parse_error_points_unknown :
    Play.parse "T.\n\nRomeo, r.\nAct I: a.\n  Scene I: s.\n\n Hamlet :\n Recall your past.\n" =
        .error (.unknownSpeaker 7 "Hamlet") ∧
      ∀ other : String, (trimmedLines other.toList).take 7 =
          [['T', '.'], [], "Romeo, r.".toList, "Act I: a.".toList, "Scene I: s.".toList, [], "Hamlet :".toList] →
        Play.parse other = .error (.unknownSpeaker 7 "Hamlet") := by
  have fails : Play.parse "T.\n\nRomeo, r.\nAct I: a.\n  Scene I: s.\n\n Hamlet :\n Recall your past.\n" =
      .error (.unknownSpeaker 7 "Hamlet") := by
    decide
  refine ⟨fails, fun other hother => (parse_error_points fails rfl).2.2.2 other (hother.trans ?_)⟩
  decide

end Playscript
