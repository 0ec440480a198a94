/-
The lines of a text that hold anything.

- `inkLines`: the lines that are not blank, trimmed; it is all that a reader of plays gets to see (`numberedLines_snd`);
- `inkLines_newline`, `inkLines_blank_append`: a line feed separates, and blanks in front of a text do not matter;
- `inkLines_tight_append`: a line that begins with text, and what trimming leaves of it;
- `spill`: what a text puts on later lines, which is nothing exactly where the text has one line (`spill_eq_nil_iff`).
-/
import Playscript.Play.Reading
import Playscript.Proofs.Text.Splitting
import Playscript.Proofs.Text.Trimming

namespace Playscript

theorem splitLines_ne_nil (cs : List Char) : splitLines cs ≠ [] := by
  cases cs with
  | nil => simp [splitLines]
  | cons c cs =>
    rw [splitLines]
    split
    · simp
    · cases splitLines cs <;> simp [Text.extendFirst]

/-- **A line feed ends a line.** -/
theorem splitLines_newline (cs ds : List Char) : splitLines (cs ++ '\n' :: ds) = splitLines cs ++ splitLines ds := by
  induction cs with
  | nil => simp [splitLines]
  | cons c cs ih =>
    rw [List.cons_append, splitLines, splitLines, ih]
    split
    · rfl
    · exact Text.extendFirst_append c (splitLines_ne_nil cs) _

theorem splitLines_of_not_mem {cs : List Char} (h : '\n' ∉ cs) : splitLines cs = [cs] := by
  induction cs with
  | nil => rfl
  | cons c cs ih =>
    obtain ⟨hc, hcs⟩ := List.ne_and_not_mem_of_not_mem_cons h
    rw [splitLines, if_neg (Ne.symm hc), ih hcs]
    rfl

theorem newline_of_mem_splitLines {cs line : List Char} (h : line ∈ splitLines cs) : '\n' ∉ line := by
  induction cs generalizing line with
  | nil =>
    rw [List.mem_singleton.1 h]
    exact List.not_mem_nil
  | cons c cs ih =>
    rw [splitLines] at h
    split at h
    · rcases List.mem_cons.1 h with rfl | h
      · exact List.not_mem_nil
      · exact ih h
    · rename_i hc
      cases hlines : splitLines cs with
      | nil => exact absurd hlines (splitLines_ne_nil cs)
      | cons first lines =>
        rw [hlines] at h ih
        rcases List.mem_cons.1 h with rfl | h
        · exact List.not_mem_cons_of_ne_of_not_mem (Ne.symm hc) (ih List.mem_cons_self)
        · exact ih (List.mem_cons_of_mem _ h)

/-- the lines that are not blank, trimmed -/
def inkLines (cs : List Char) : List (List Char) :=
  ((splitLines cs).map Text.trimChars).filter fun line => !line.isEmpty

theorem tight_of_mem_inkLines {cs line : List Char} (h : line ∈ inkLines cs) : Text.Tight line ∧ '\n' ∉ line := by
  obtain ⟨hline, hne⟩ := List.mem_filter.1 h
  obtain ⟨whole, hwhole, rfl⟩ := List.mem_map.1 hline
  refine ⟨Text.tight_trimChars (by simpa using hne), fun hmem => ?_⟩
  exact newline_of_mem_splitLines hwhole (Text.mem_of_mem_trimChars hmem)

/-- **What a reader sees of a text** -/
theorem numberedLines_snd (text : String) : (numberedLines text).map (·.2) = inkLines text.toList := by
  have numbered : ∀ (lines : List (List Char)) (start : Nat),
      (((lines.zipIdx start).map fun line => (line.2, Text.trimChars line.1)).filter
        fun line => !line.2.isEmpty).map (·.2) = (lines.map Text.trimChars).filter fun line => !line.isEmpty := by
    intro lines
    induction lines with
    | nil => exact fun _ => rfl
    | cons line lines ih =>
      intro start
      cases hempty : (Text.trimChars line).isEmpty <;> simp [hempty, ih]
  exact numbered (splitLines text.toList) 1

theorem inkLines_newline (cs ds : List Char) : inkLines (cs ++ '\n' :: ds) = inkLines cs ++ inkLines ds := by
  rw [inkLines, splitLines_newline, List.map_append, List.filter_append]
  rfl

theorem inkLines_cons_blank {b : Char} (h : Text.isBlank b = true) (cs : List Char) :
    inkLines (b :: cs) = inkLines cs := by
  by_cases hb : b = '\n'
  · rw [hb]
    exact inkLines_newline [] cs
  · cases hlines : splitLines cs with
    | nil => exact absurd hlines (splitLines_ne_nil cs)
    | cons line lines =>
      have hfront : Text.trimChars (b :: line) = Text.trimChars line := by
        simp [Text.trimChars, Text.dropBlankFront, h]
      rw [inkLines, inkLines, splitLines, if_neg hb, hlines, Text.extendFirst, List.map_cons, List.map_cons, hfront]

/-- **Blanks in front of a text do not matter.** -/
theorem inkLines_blank_append {front : List Char} (h : Text.Blank front) (cs : List Char) :
    inkLines (front ++ cs) = inkLines cs := by
  induction front with
  | nil => rfl
  | cons b front ih =>
    rw [List.cons_append, inkLines_cons_blank (h b List.mem_cons_self), ih fun c hc => h c (List.mem_cons_of_mem b hc)]

/-- a text without line feeds is one line -/
theorem inkLines_tight_append {front rest : List Char} (h : Text.Tight front) (hfront : '\n' ∉ front)
    (hrest : '\n' ∉ rest) : inkLines (front ++ rest) = [front ++ Text.dropBlankBack rest] := by
  rw [inkLines, splitLines_of_not_mem (by simp [hfront, hrest]), List.map_singleton, h.trimChars_append]
  simp [h.ne_nil]

theorem inkLines_tight {cs : List Char} (h : Text.Tight cs) (hcs : '\n' ∉ cs) : inkLines cs = [cs] := by
  have line := inkLines_tight_append h hcs (show '\n' ∉ [] from List.not_mem_nil)
  rwa [Text.dropBlankBack, List.reverse_nil, List.dropWhile_nil, List.reverse_nil, List.append_nil] at line

theorem inkLines_append_newline (cs : List Char) : inkLines (cs ++ "\n".toList) = inkLines cs := by
  have ended := inkLines_newline cs []
  rwa [show inkLines [] = [] from rfl, List.append_nil] at ended

/-! ## Text that goes on -/

/-- what a text puts on later lines than the one it begins on -/
def spill (cs : List Char) : List (List Char) := inkLines (cs.dropWhile (· != '\n'))

theorem spill_cons {c : Char} (h : c ≠ '\n') (cs : List Char) : spill (c :: cs) = spill cs := by
  simp [spill, h]

/-- the line that a text begins on, and what follows its first line feed -/
theorem exists_firstLine (cs : List Char) :
    ∃ line rest, cs = line ++ rest ∧ '\n' ∉ line ∧ spill cs = inkLines rest ∧
      cs.takeWhile (· != '\n') = line ∧ (rest = [] ∨ ∃ later, rest = '\n' :: later) := by
  refine ⟨_, cs.dropWhile (· != '\n'), (List.takeWhile_append_dropWhile).symm, fun hmem => ?_, rfl, rfl, ?_⟩
  · exact absurd (List.mem_takeWhile_imp hmem) (by decide)
  · cases hrest : cs.dropWhile (· != '\n') with
    | nil => exact .inl rfl
    | cons c later =>
      have hhead := List.head_dropWhile_not (· != '\n') (l := cs) (by simp [hrest])
      simp only [hrest, List.head_cons, bne_eq_false_iff_eq] at hhead
      exact .inr ⟨later, by rw [hhead]⟩

/-- **A text that goes on after its first line spills the rest.** -/
theorem inkLines_spill {front : List Char} (h : Text.Tight front) (hfront : '\n' ∉ front) (cs : List Char) :
    inkLines (front ++ cs) = (front ++ Text.dropBlankBack (cs.takeWhile (· != '\n'))) :: spill cs := by
  obtain ⟨line, rest, hcs, hline, hspill, htake, hrest⟩ := exists_firstLine cs
  rw [hspill, htake, hcs, ← List.append_assoc]
  rcases hrest with rfl | ⟨later, rfl⟩
  · rw [List.append_nil, inkLines_tight_append h hfront hline]
    rfl
  · rw [inkLines_newline, inkLines_tight_append h hfront hline, inkLines_cons_blank (by decide)]
    rfl

theorem inkLines_cons_ink {c : Char} (h : Text.isBlank c = false) (cs : List Char) :
    inkLines (c :: cs) = (c :: Text.dropBlankBack (cs.takeWhile (· != '\n'))) :: spill cs := by
  have newline : '\n' ∉ [c] := fun hmem => by
    rw [← List.mem_singleton.1 hmem] at h
    cases h
  exact inkLines_spill ⟨⟨c, rfl, h⟩, c, rfl, h⟩ newline cs

theorem inkLines_eq_nil_iff {cs : List Char} : inkLines cs = [] ↔ Text.Blank cs := by
  refine ⟨fun h => ?_, fun h => ?_⟩
  · induction cs with
    | nil => exact fun c hc => absurd hc List.not_mem_nil
    | cons c cs ih =>
      cases hc : Text.isBlank c with
      | true =>
        rw [inkLines_cons_blank hc] at h
        exact List.forall_mem_cons.2 ⟨hc, ih h⟩
      | false =>
        rw [inkLines_cons_ink hc] at h
        cases h
  · have lines := inkLines_blank_append h []
    rwa [List.append_nil] at lines

/-- **Nothing is spilled** exactly where the text without the blanks at its end has no line feed. -/
theorem spill_eq_nil_iff {cs : List Char} : spill cs = [] ↔ '\n' ∉ Text.dropBlankBack cs := by
  obtain ⟨line, rest, rfl, hline, hspill, -, hrest⟩ := exists_firstLine cs
  rw [hspill, inkLines_eq_nil_iff]
  refine ⟨fun hblank hmem => ?_, fun hmem => ?_⟩
  · rw [Text.dropBlankBack_append_blank line hblank] at hmem
    exact hline (Text.mem_of_mem_dropBlankBack hmem)
  · by_contra hink
    obtain ⟨c, hc, hinked⟩ : ∃ c ∈ rest, Text.isBlank c = false := by simpa [Text.Blank] using hink
    obtain ⟨before, after, rfl⟩ := List.append_of_mem hc
    rw [← List.append_assoc, Text.dropBlankBack_append hinked] at hmem
    rcases hrest with hnil | ⟨later, hlater⟩
    · simp at hnil
    · cases before with
      | nil =>
        rw [List.nil_append, List.cons.injEq] at hlater
        rw [hlater.1] at hinked
        cases hinked
      | cons d before =>
        rw [List.cons_append, List.cons.injEq] at hlater
        exact hmem (by simp [hlater.1])

/-- a text that spills nothing is one line -/
theorem inkLines_oneLine {front rest : List Char} (h : Text.Tight front) (hfront : '\n' ∉ front)
    (hrest : '\n' ∉ Text.dropBlankBack rest) : inkLines (front ++ rest) = [front ++ Text.dropBlankBack rest] := by
  have hnone := spill_eq_nil_iff.2 hrest
  rw [inkLines_spill h hfront, hnone]
  obtain ⟨line, later, rfl, -, hspill, htake, -⟩ := exists_firstLine rest
  have hblank := inkLines_eq_nil_iff.1 (hspill ▸ hnone)
  rw [htake, Text.dropBlankBack_append_blank line hblank]

end Playscript
