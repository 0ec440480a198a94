/-
Reading a program cue by cue, as it stands: act by act, scene by scene, line by line, and in a speech statement by
statement.

- `cueFrom`: the first cue at a place or after it;
- `Standing`: a cue stands at a place, and is the one at that offset from the beginning of its scene;
- `seekLine_eq`: seeking among lines finds a cue that stands where it is said to, at the offset where seeking began.
-/
import Playscript.Proofs.Script.Soundness

namespace Playscript

/-- what is done in one go: a stage direction, or a statement by its speaker -/
inductive Cue where
  | direction (d : StageDirection)
  | statement (speaker : Ident) (s : Statement)
  deriving DecidableEq, Repr

/-- what a line holds, in order -/
def Line.cues : Line → List Cue
  | .direction d => [.direction d]
  | .speech speaker statements => statements.map (.statement speaker)

theorem Line.eq_of_direction_mem {line : Line} {d : StageDirection} (h : .direction d ∈ line.cues) :
    line = .direction d := by
  cases line with
  | direction d' =>
    cases List.mem_singleton.1 h
    rfl
  | speech speaker statements => simp [cues] at h

theorem Line.eq_of_statement_mem {line : Line} {speaker : Ident} {s : Statement} (h : .statement speaker s ∈ line.cues) :
    ∃ statements, line = .speech speaker statements ∧ s ∈ statements := by
  cases line with
  | direction d => simp [cues] at h
  | speech speaker' statements =>
    obtain ⟨s', hs, heq⟩ := List.mem_map.1 h
    cases heq
    exact ⟨statements, rfl, hs⟩

/-- an act, a scene of it, a line of that, and a cue of that; all counted from zero -/
structure Place where
  act : Nat
  scene : Nat
  line : Nat
  cue : Nat
  deriving DecidableEq, Repr

/-- the beginning of a scene -/
def Place.opening (act scene : Nat) : Place := ⟨act, scene, 0, 0⟩

def Place.next (place : Place) : Place := { place with cue := place.cue + 1 }

/-! ## Seeking a cue -/

/-- the first cue of some lines, of which only the first is entered in the middle -/
def seekLine (line cue : Nat) : List Line → Option ((Nat × Nat) × Cue)
  | [] => none
  | l :: rest =>
    match l.cues[cue]? with
    | some found => some ((line, cue), found)
    | none => seekLine (line + 1) 0 rest

/-- the first cue of some scenes, of which only the first is entered in the middle -/
def seekLines (scene line cue : Nat) : List (List Line) → Option ((Nat × Nat × Nat) × Cue)
  | [] => none
  | lines :: rest =>
    match seekLine line cue (lines.drop line) with
    | some ((line, cue), found) => some ((scene, line, cue), found)
    | none => seekLines (scene + 1) 0 0 rest

/-- the first cue of some acts, of which only the first is entered in the middle -/
def seekScenes (act scene line cue : Nat) : List (List (List Line)) → Option (Place × Cue)
  | [] => none
  | scenes :: rest =>
    match seekLines scene line cue (scenes.drop scene) with
    | some ((scene, line, cue), found) => some (⟨act, scene, line, cue⟩, found)
    | none => seekScenes (act + 1) 0 0 0 rest

namespace Program

/-- the lines of a scene, both the scene and its act counted from zero; none if there is no such scene -/
def linesAt (program : Program) (act scene : Nat) : List Line :=
  ((program.linesByScene[act]?).bind (·[scene]?)).getD []

/-- the first cue at a place or after it, and its place; there is none if the program ends before -/
def cueFrom (program : Program) (place : Place) : Option (Place × Cue) :=
  seekScenes place.act place.scene place.line place.cue (program.linesByScene.drop place.act)

/-- the scene that a jump goes to, counted from zero like its act. Jumps count from one, and one that names no act goes
to a scene of `act`, which is being played. -/
def destination? (program : Program) (act : Nat) (target : JumpTarget) : Option (Nat × Nat) :=
  match target.act.getD (act + 1), target.scene with
  | i + 1, j + 1 => ((program.linesByScene[i]?).bind (·[j]?)).map fun _ => (i, j)
  | _, _ => none

end Program

/-! ## Where a cue stands -/

/-- how many cues of the lines come before a place among them -/
def offset (lines : List Line) (line cue : Nat) : Nat := ((lines.take line).flatMap Line.cues).length + cue

/-- a line that is entered is entered no later than at its end -/
def Entered (lines : List Line) (line cue : Nat) : Prop := ∀ l, lines[line]? = some l → cue ≤ l.cues.length

/-- a cue stands at a place among the lines -/
structure Standing (lines : List Line) (line cue : Nat) (found : Cue) : Prop where
  within : ∃ l, lines[line]? = some l ∧ l.cues[cue]? = some found
  nth : (lines.flatMap Line.cues)[offset lines line cue]? = some found

/-- what is left of a list begins with the item at that place -/
theorem of_drop_eq_cons {α : Type} {as rest : List α} {a : α} {i : Nat} (h : as.drop i = a :: rest) :
    as[i]? = some a ∧ as.drop (i + 1) = rest := by
  refine ⟨?_, by rw [← List.drop_drop, h]; rfl⟩
  have hhead := congrArg List.head? h
  rwa [List.head?_drop] at hhead

theorem offset_zero (lines : List Line) : offset lines 0 0 = 0 := rfl

theorem entered_zero (lines : List Line) : Entered lines 0 0 := fun _ _ => Nat.zero_le _

theorem Standing.entered_next {lines : List Line} {line cue : Nat} {found : Cue} (h : Standing lines line cue found) :
    Entered lines line (cue + 1) := by
  intro l hl
  obtain ⟨l', hl', hcue⟩ := h.within
  cases hl.symm.trans hl'
  exact (List.getElem?_eq_some_iff.1 hcue).1

/-- the end of a line is the beginning of the next one -/
theorem offset_end {lines : List Line} {line : Nat} {l : Line} (hl : lines[line]? = some l) :
    offset lines (line + 1) 0 = offset lines line l.cues.length := by
  obtain ⟨hlt, rfl⟩ := List.getElem?_eq_some_iff.1 hl
  rw [offset, offset, List.take_succ_eq_append_getElem hlt, List.flatMap_append, List.length_append,
    List.flatMap_singleton, Nat.add_zero]

/-- the cues of some lines, cut at one of the lines -/
theorem flatMap_cues_split {lines : List Line} {line : Nat} {l : Line} (h : lines[line]? = some l) :
    lines.flatMap Line.cues =
      (lines.take line).flatMap Line.cues ++ (l.cues ++ (lines.drop (line + 1)).flatMap Line.cues) := by
  obtain ⟨hlt, rfl⟩ := List.getElem?_eq_some_iff.1 h
  rw [← List.flatMap_cons, ← List.drop_eq_getElem_cons hlt, ← List.flatMap_append, List.take_append_drop]

theorem standing_of_cue {lines : List Line} {line cue : Nat} {l : Line} {found : Cue} (hl : lines[line]? = some l)
    (hcue : l.cues[cue]? = some found) : Standing lines line cue found := by
  refine ⟨⟨l, hl, hcue⟩, ?_⟩
  obtain ⟨hlt, -⟩ := List.getElem?_eq_some_iff.1 hcue
  rw [flatMap_cues_split hl, offset, List.getElem?_append_right (Nat.le_add_right _ _), Nat.add_sub_cancel_left,
    List.getElem?_append_left hlt, hcue]

/-- the cues before a place are those of the lines before it and those before it in its line -/
theorem take_offset {lines : List Line} {line cue : Nat} {l : Line} (h : lines[line]? = some l)
    (hcue : cue ≤ l.cues.length) :
    (lines.flatMap Line.cues).take (offset lines line cue) = (lines.take line).flatMap Line.cues ++ l.cues.take cue := by
  rw [flatMap_cues_split h, offset, List.take_length_add_append, List.take_append_of_le_length hcue]

/-- **Seeking among lines** finds the cue that is as many cues into them as the place where it begins, or there is no
such cue. -/
theorem seekLine_eq {lines : List Line} {line cue : Nat} (h : Entered lines line cue) :
    (seekLine line cue (lines.drop line) = none ∧ (lines.flatMap Line.cues).length ≤ offset lines line cue) ∨
      ∃ line' cue' found, seekLine line cue (lines.drop line) = some ((line', cue'), found) ∧
        offset lines line' cue' = offset lines line cue ∧ Standing lines line' cue' found := by
  induction hrest : lines.drop line generalizing line cue with
  | nil =>
    refine .inl ⟨rfl, ?_⟩
    have hle := List.drop_eq_nil_iff.1 hrest
    rw [offset, List.take_of_length_le hle]
    exact Nat.le_add_right _ _
  | cons l rest ih =>
    obtain ⟨hl, hrest⟩ := of_drop_eq_cons hrest
    unfold seekLine
    cases hcue : l.cues[cue]? with
    | some found => exact .inr ⟨line, cue, found, rfl, rfl, standing_of_cue hl hcue⟩
    | none =>
      have hend : cue = l.cues.length := Nat.le_antisymm (h l hl) (List.getElem?_eq_none_iff.1 hcue)
      have hstep : offset lines (line + 1) 0 = offset lines line cue := by rw [hend, offset_end hl]
      rw [← hstep]
      exact ih (fun _ _ => Nat.zero_le _) hrest

end Playscript
