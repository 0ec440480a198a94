/-
Reading a play line by line, whatever the numbers of its lines.

- `Draft.Reads`: the draft that a row of lines leads to; rows may be put together (`Reads.append`);
- `step_text`: a line of text goes on with the speech;
- `reads_wrapped`: so a speech comes out the same however it is broken into lines.
-/
import Playscript.Proofs.Play.Layout
import Playscript.Proofs.Play.Lines
import Playscript.Proofs.Play.Surface
import Playscript.Proofs.Text.Spaced

namespace Playscript

namespace Draft

/-- from the first draft, lines with these contents lead to the second -/
def Reads (first : Draft) (lines : List (List Char)) (last : Draft) : Prop :=
  ∀ numbered : List (Nat × List Char), numbered.map (·.2) = lines → first.steps numbered = .ok last

theorem Reads.nil (draft : Draft) : draft.Reads [] draft := by
  intro numbered h
  rw [List.map_eq_nil_iff.1 h]
  rfl

theorem Reads.cons {first middle last : Draft} {line : List Char} {lines : List (List Char)}
    (hline : ∀ n, first.step (n, line) = .ok middle) (hlines : middle.Reads lines last) :
    first.Reads (line :: lines) last := by
  intro numbered h
  obtain ⟨⟨n, _⟩, rest, rfl, rfl, hrest⟩ := List.map_eq_cons_iff.1 h
  rw [steps, hline]
  exact hlines rest hrest

theorem Reads.single {first last : Draft} {line : List Char} (hline : ∀ n, first.step (n, line) = .ok last) :
    first.Reads [line] last :=
  .cons hline (.nil last)

theorem Reads.append {first middle last : Draft} {lines lines' : List (List Char)} (h : first.Reads lines middle)
    (h' : middle.Reads lines' last) : first.Reads (lines ++ lines') last := by
  have go : ∀ (numbered numbered' : List (Nat × List Char)) (draft : Draft), draft.steps numbered = .ok middle →
      draft.steps (numbered ++ numbered') = middle.steps numbered' := by
    intro numbered numbered'
    induction numbered with
    | nil =>
      intro draft hdraft
      cases hdraft
      rfl
    | cons line rest ih =>
      intro draft hdraft
      rw [List.cons_append, steps]
      rw [steps] at hdraft
      cases hstep : draft.step line with
      | error cause =>
        rw [hstep] at hdraft
        cases hdraft
      | ok next =>
        rw [hstep] at hdraft
        exact ih next hdraft
  intro numbered hnumbered
  obtain ⟨front, back, rfl, hfront, hback⟩ := List.map_eq_append_iff.1 hnumbered
  rw [go front back first (h front hfront)]
  exact h' back hback

end Draft

/-! ## Speeches -/

/-- a character that may stand in a line of speech: no blank, no colon and no bracket -/
def isSpoken (c : Char) : Bool := !Text.isBlank c && c != ':' && c != '['

theorem isBlank_of_isSpoken {c : Char} (h : isSpoken c = true) : Text.isBlank c = false := by
  simp only [isSpoken, Bool.and_eq_true, Bool.not_eq_true'] at h
  exact h.1.1

namespace Draft

/-- a draft in the middle of a speech, of which `text` has been read -/
structure Speaking (draft : Draft) (speaker text : String) : Prop where
  title : draft.title ≠ none
  acts : draft.acts ≠ []
  speech : draft.speech = some (speaker, text)

/-- the text of a speech with one more line -/
def extended (text : String) (line : List Char) : String :=
  if text = "" then String.ofList line else text ++ " " ++ String.ofList line

theorem extended_empty (line : List Char) : extended "" line = String.ofList line := rfl

theorem extended_append (text : String) (line more : List Char) :
    extended text (line ++ more) = extended text line ++ String.ofList more := by
  unfold extended
  split <;> simp [String.append_assoc]

theorem extended_extended (text : String) {line : List Char} (hline : line ≠ []) (more : List Char) :
    extended (extended text line) more = extended text (line ++ ' ' :: more) := by
  have hne : extended text line ≠ "" := by
    unfold extended
    split
    · simpa using hline
    · intro h
      have hlist := congrArg String.toList h
      simp at hlist
  have hspace : String.ofList (' ' :: more) = " " ++ String.ofList more := by
    apply String.toList_inj.1
    simp
  rw [extended_append, hspace, ← String.append_assoc]
  rw [extended, if_neg hne]

/-- the draft with the speech that is going on at `text` -/
def speaking (draft : Draft) (speaker text : String) : Draft := { draft with speech := some (speaker, text) }

theorem Speaking.speaking {draft : Draft} {speaker text : String} (h : draft.Speaking speaker text) (text' : String) :
    (draft.speaking speaker text').Speaking speaker text' :=
  ⟨h.title, h.acts, rfl⟩

/-- **A line of text goes on with the speech.** -/
theorem step_text {draft : Draft} {speaker text : String} (h : draft.Speaking speaker text) {line : List Char}
    (hkind : lineKind line = .text) (n : Nat) :
    draft.step (n, line) = .ok (draft.speaking speaker (extended text line)) := by
  obtain ⟨hact, hscene, hopen, hclose⟩ := lineKind_eq_text_iff.1 hkind
  have hacts : draft.acts.isEmpty = false := by simpa using h.acts
  simp only [step, if_neg h.title, hact, hacts, hscene, readLine, if_neg hopen, if_neg hclose, continueSpeech, h.speech]
  rfl

/-- the part of a line that has been read: nothing yet, or text that begins with a word and, in the middle of one, ends
with it -/
structure Begun (inWord : Bool) (line : List Char) : Prop where
  first : line = [] ∧ inWord = false ∨ ∃ c ∈ line.head?, Text.isBlank c = false
  last : inWord = true → ∃ c ∈ line.getLast?, Text.isBlank c = false
  chars : ∀ c ∈ line, c = ' ' ∨ isSpoken c = true

theorem Begun.nil : Begun false [] := ⟨.inl ⟨rfl, rfl⟩, by simp, by simp⟩

theorem Begun.concat_word {inWord : Bool} {line : List Char} (h : Begun inWord line) {c : Char}
    (hc : isSpoken c = true) : Begun true (line ++ [c]) where
  first := by
    rcases h.first with ⟨rfl, -⟩ | ⟨d, hd, hink⟩
    · exact .inr ⟨c, rfl, isBlank_of_isSpoken hc⟩
    · exact .inr ⟨d, by simp [List.head?_append, Option.mem_def.1 hd], hink⟩
  last _ := ⟨c, by simp, isBlank_of_isSpoken hc⟩
  chars d hd := by
    rcases List.mem_append.1 hd with hd | hd
    · exact h.chars d hd
    · exact .inr (List.mem_singleton.1 hd ▸ hc)

theorem Begun.concat_space {line : List Char} (h : Begun true line) : Begun false (line ++ [' ']) where
  first := by
    rcases h.first with ⟨-, hfalse⟩ | ⟨d, hd, hink⟩
    · cases hfalse
    · exact .inr ⟨d, by simp [List.head?_append, Option.mem_def.1 hd], hink⟩
  last := nofun
  chars d hd := by
    rcases List.mem_append.1 hd with hd | hd
    · exact h.chars d hd
    · exact .inl (List.mem_singleton.1 hd)

theorem Begun.tight {line : List Char} (h : Begun true line) : Text.Tight line := by
  rcases h.first with ⟨-, hfalse⟩ | hfirst
  · cases hfalse
  · exact ⟨hfirst, h.last rfl⟩

theorem Begun.not_mem {inWord : Bool} {line : List Char} (h : Begun inWord line) :
    '\n' ∉ line ∧ ':' ∉ line ∧ '[' ∉ line := by
  refine ⟨fun hmem => ?_, fun hmem => ?_, fun hmem => ?_⟩
  all_goals
    rcases h.chars _ hmem with hspace | hspoken
    · cases hspace
    · exact absurd hspoken (by decide)

/-- **A speech comes out the same however it is broken into lines.** The induction goes along the text: what has been
read of the current line stays in front until a break or the end closes it. -/
theorem reads_wrapped {cs body : List Char} (h : Wrapped cs body) {inWord : Bool}
    (hcs : Text.spacedFrom isSpoken inWord cs = true) {draft : Draft} {speaker text : String}
    (hspeaking : draft.Speaking speaker text) {line : List Char} (hline : Begun inWord line) :
    draft.Reads (inkLines (line ++ body)) (draft.speaking speaker (extended text (line ++ cs))) := by
  induction h generalizing inWord draft text line with
  | done =>
    have hword : inWord = true := hcs
    subst hword
    obtain ⟨hnewline, hcolon, hbracket⟩ := hline.not_mem
    rw [List.append_nil, inkLines_tight hline.tight hnewline]
    exact .single (step_text hspeaking (lineKind_text hcolon hbracket))
  | @keep cs ds c _ ih =>
    rw [Text.spacedFrom] at hcs
    rw [List.append_cons line c ds, List.append_cons line c cs]
    split at hcs
    · rename_i hc
      rw [Bool.and_eq_true] at hcs
      obtain ⟨rfl, hrest⟩ := hcs
      exact ih hrest hspeaking (hc ▸ hline.concat_space)
    · rw [Bool.and_eq_true] at hcs
      exact ih hcs.2 hspeaking (hline.concat_word hcs.1)
  | @wrap gap cs ds hgap _ ih =>
    rw [Text.spacedFrom, if_pos rfl, Bool.and_eq_true] at hcs
    obtain ⟨rfl, hrest⟩ := hcs
    obtain ⟨hblank, hbreak⟩ := hgap
    obtain ⟨hnewline, hcolon, hbracket⟩ := hline.not_mem
    -- the first line feed of the break closes the line
    obtain ⟨before, after, rfl, hbefore⟩ := List.eq_append_cons_of_mem hbreak
    have hback : Text.Blank before := fun c hc => hblank c (List.mem_append_left _ hc)
    have hfront : Text.Blank after := fun c hc => hblank c (List.mem_append_right _ (List.mem_cons_of_mem _ hc))
    have hlines : inkLines (line ++ (before ++ '\n' :: after ++ ds)) = [line] ++ inkLines ([] ++ ds) := by
      have parts : line ++ (before ++ '\n' :: after ++ ds) = (line ++ before) ++ '\n' :: (after ++ ds) := by simp
      rw [parts, inkLines_newline, inkLines_tight_append hline.tight hnewline hbefore,
        Text.dropBlankBack_blank hback, List.append_nil, inkLines_blank_append hfront, List.nil_append]
    rw [hlines, ← extended_extended text hline.tight.ne_nil]
    refine (Reads.single (step_text hspeaking (lineKind_text hcolon hbracket))).append ?_
    exact ih hrest (hspeaking.speaking _) .nil

/-- a whole speech, whose speaker has just been named -/
theorem reads_speech {cs body : List Char} (h : Wrapped (' ' :: cs) body) (hcs : cs = [] ∨ Text.Spaced isSpoken cs)
    {draft : Draft} {speaker : String} (hspeaking : draft.Speaking speaker "") :
    draft.Reads (inkLines body) (draft.speaking speaker (String.ofList cs)) := by
  -- whatever has become of the space in front, what comes after it is the text, wrapped
  obtain ⟨front, rest, rfl, hfront, hrest⟩ :
      ∃ front rest, body = front ++ rest ∧ Text.Blank front ∧ Wrapped cs rest := by
    cases h with
    | keep _ h => exact ⟨[' '], _, rfl, by simp [Text.Blank, Text.isBlank, Text.isAscii], h⟩
    | wrap hgap h => exact ⟨_, _, rfl, hgap.1, h⟩
  rw [inkLines_blank_append hfront]
  rcases hcs with rfl | hcs
  · cases hrest
    have hself : draft.speaking speaker (String.ofList []) = draft := by
      obtain ⟨title, personae, acts, speech⟩ := draft
      obtain ⟨-, -, rfl⟩ := hspeaking
      rfl
    rw [hself]
    exact .nil draft
  · have read := reads_wrapped hrest hcs hspeaking .nil
    rwa [List.nil_append, List.nil_append, extended_empty] at read

end Draft

end Playscript
