/-
A script and its program are read at the same pace.

- `Span.Covers`: the operations of a scene are as many as its cues;
- `seekLines_eq`, `seekScenes_eq`: so seeking among spans follows seeking among lines, scene by scene and act by act;
- `settle_eq`: the script settles where the program has its next cue, and ends where the program ends.
-/
import Playscript.Performance.State
import Playscript.Proofs.Rehearsal.Cues
import Mathlib.Data.List.Forall2

namespace Playscript

/-- the operations of a scene are as many as its cues -/
def Span.Covers (span : Span) (lines : List Line) : Prop := span.length = (lines.flatMap Line.cues).length

section Scenes

variable {spans : List Span} {scenes : List (List Line)} (hcovers : List.Forall₂ Span.Covers spans scenes)
include hcovers

/-- **Seeking among the scenes of an act** -/
theorem seekLines_eq {s line l k : Nat}
    (h : ∀ lines, scenes[s]? = some lines → Entered lines l k ∧ line = offset lines l k) :
    (seekLines s l k (scenes.drop s) = none ∧ seekScene s line (spans.drop s) = none) ∨
      ∃ s' l' k' found lines span, seekLines s l k (scenes.drop s) = some ((s', l', k'), found) ∧
        seekScene s line (spans.drop s) = some ((s', offset lines l' k'), span.start + offset lines l' k') ∧
        scenes[s']? = some lines ∧ spans[s']? = some span ∧ Standing lines l' k' found := by
  induction hrest : scenes.drop s generalizing s line l k with
  | nil =>
    have hle := List.drop_eq_nil_iff.1 hrest
    rw [← hcovers.length_eq] at hle
    exact .inl ⟨rfl, by rw [List.drop_of_length_le hle]; rfl⟩
  | cons lines rest ih =>
    obtain ⟨hlines, hrest⟩ := of_drop_eq_cons hrest
    obtain ⟨hs', -⟩ := List.getElem?_eq_some_iff.1 hlines
    have hs : s < spans.length := hcovers.length_eq ▸ hs'
    have hspan : spans[s].Covers lines := by
      obtain ⟨-, rfl⟩ := List.getElem?_eq_some_iff.1 hlines
      exact hcovers.get hs hs'
    obtain ⟨hentered, rfl⟩ := h lines hlines
    rw [List.drop_eq_getElem_cons hs]
    unfold seekLines seekScene
    rcases seekLine_eq hentered with ⟨hnone, hpast⟩ | ⟨l', k', found, hsome, hoffset, hstanding⟩
    · rw [hnone, if_neg (by rw [hspan]; omega)]
      exact ih (fun lines _ => ⟨entered_zero lines, (offset_zero lines).symm⟩) hrest
    · obtain ⟨hlt, -⟩ := List.getElem?_eq_some_iff.1 hstanding.nth
      rw [hsome, ← hoffset, if_pos (by rw [hspan]; exact hlt)]
      exact .inr ⟨s, l', k', found, lines, spans[s], rfl, rfl, hlines, List.getElem?_eq_getElem hs, hstanding⟩

end Scenes

section Acts

variable {acts : List (List Span)} {rows : List (List (List Line))}
  (hcovers : List.Forall₂ (List.Forall₂ Span.Covers) acts rows)
include hcovers

/-- **Seeking among the acts** -/
theorem seekScenes_eq {a s line l k : Nat}
    (h : ∀ scenes lines, rows[a]? = some scenes → scenes[s]? = some lines →
      Entered lines l k ∧ line = offset lines l k) :
    (seekScenes a s l k (rows.drop a) = none ∧ seekAct a s line (acts.drop a) = none) ∨
      ∃ a' s' l' k' found scenes lines spans span,
        seekScenes a s l k (rows.drop a) = some (⟨a', s', l', k'⟩, found) ∧
        seekAct a s line (acts.drop a) =
          some (⟨a', s', offset lines l' k'⟩, span.start + offset lines l' k') ∧
        rows[a']? = some scenes ∧ scenes[s']? = some lines ∧ acts[a']? = some spans ∧ spans[s']? = some span ∧
        Standing lines l' k' found := by
  induction hrest : rows.drop a generalizing a s line l k with
  | nil =>
    have hle := List.drop_eq_nil_iff.1 hrest
    rw [← hcovers.length_eq] at hle
    exact .inl ⟨rfl, by rw [List.drop_of_length_le hle]; rfl⟩
  | cons scenes rest ih =>
    obtain ⟨hscenes, hrest⟩ := of_drop_eq_cons hrest
    obtain ⟨ha', -⟩ := List.getElem?_eq_some_iff.1 hscenes
    have ha : a < acts.length := hcovers.length_eq ▸ ha'
    have hspans : List.Forall₂ Span.Covers acts[a] scenes := by
      obtain ⟨-, rfl⟩ := List.getElem?_eq_some_iff.1 hscenes
      exact hcovers.get ha ha'
    rw [List.drop_eq_getElem_cons ha]
    unfold seekScenes seekAct
    rcases seekLines_eq hspans (fun lines hlines => h scenes lines hscenes hlines) with
      ⟨hnone, hnone'⟩ | ⟨s', l', k', found, lines, span, hsome, hsome', hlines, hspan, hstanding⟩
    · rw [hnone, hnone']
      exact ih (fun _ lines _ _ => ⟨entered_zero lines, (offset_zero lines).symm⟩) hrest
    · rw [hsome, hsome']
      exact .inr ⟨a, s', l', k', found, scenes, lines, acts[a], span, rfl, rfl, hscenes, hlines,
        List.getElem?_eq_getElem ha, hspan, hstanding⟩

end Acts

/-! ## Places and positions -/

namespace Program

variable (program : Program)

/-- the position of a place: its cue is counted from the beginning of the scene -/
def positionOf (place : Place) : Position :=
  ⟨place.act, place.scene, offset (program.linesAt place.act place.scene) place.line place.cue⟩

/-- a line that is entered is entered no later than at its end -/
def Proper (place : Place) : Prop := Entered (program.linesAt place.act place.scene) place.line place.cue

/-- a cue stands at a place of the program -/
structure Cued (place : Place) (found : Cue) : Prop where
  hasScene : program.HasScene place.act place.scene
  standing : Standing (program.linesAt place.act place.scene) place.line place.cue found

variable {program}

theorem linesAt_eq {a s : Nat} {scenes : List (List Line)} {lines : List Line}
    (hscenes : program.linesByScene[a]? = some scenes) (hlines : scenes[s]? = some lines) :
    program.linesAt a s = lines := by
  rw [linesAt, hscenes, Option.bind_some, hlines, Option.getD_some]

theorem positionOf_opening (a s : Nat) : program.positionOf (.opening a s) = ⟨a, s, 0⟩ := rfl

theorem proper_opening (a s : Nat) : program.Proper (.opening a s) := entered_zero _

theorem Cued.proper {place : Place} {found : Cue} (h : program.Cued place found) : program.Proper place :=
  fun l hl => Nat.le_of_succ_le (h.standing.entered_next l hl)

theorem Cued.proper_next {place : Place} {found : Cue} (h : program.Cued place found) : program.Proper place.next :=
  h.standing.entered_next

/-- a cue belongs to a line of the program -/
theorem Cued.hasLine {place : Place} {found : Cue} (h : program.Cued place found) :
    ∃ line, program.HasLine place.act place.scene line ∧ found ∈ line.cues := by
  obtain ⟨scenes, hscenes, hlt⟩ := h.hasScene
  have hlines := List.getElem?_eq_getElem hlt
  obtain ⟨line, hline, hcue⟩ := h.standing.within
  rw [linesAt_eq hscenes hlines] at hline
  exact ⟨line, ⟨scenes, _, hscenes, hlines, List.mem_of_getElem? hline⟩, List.mem_of_getElem? hcue⟩

/-- **A script settles where the program has its next cue**, and ends where the program ends. -/
theorem settle_eq {script : Script} (hcovers : List.Forall₂ (List.Forall₂ Span.Covers) script.acts program.linesByScene)
    {place : Place} (h : program.Proper place) :
    (program.cueFrom place = none ∧ script.settle (program.positionOf place) = (⟨script.acts.length, 0, 0⟩, none)) ∨
      ∃ place' found spans span, program.cueFrom place = some (place', found) ∧
        script.settle (program.positionOf place) =
          (program.positionOf place', some (span.start + (program.positionOf place').line)) ∧
        script.acts[place'.act]? = some spans ∧ spans[place'.scene]? = some span ∧ program.Cued place' found := by
  have entered : ∀ scenes lines, program.linesByScene[place.act]? = some scenes → scenes[place.scene]? = some lines →
      Entered lines place.line place.cue ∧ (program.positionOf place).line = offset lines place.line place.cue := by
    intro scenes lines hscenes hlines
    rw [← linesAt_eq hscenes hlines]
    exact ⟨h, rfl⟩
  rcases seekScenes_eq hcovers entered with
    ⟨hnone, hnone'⟩ | ⟨a, s, l, k, found, scenes, lines, spans, span, hsome, hsome', hscenes, hlines, hspans, hspan,
      hstanding⟩
  · have sought : seekAct (program.positionOf place).act (program.positionOf place).scene
        (program.positionOf place).line (script.acts.drop (program.positionOf place).act) = none := hnone'
    exact .inl ⟨hnone, by rw [Script.settle, sought]⟩
  · have hat := linesAt_eq hscenes hlines
    refine .inr ⟨⟨a, s, l, k⟩, found, spans, span, hsome, ?_, hspans, hspan, ⟨scenes, hscenes, ?_⟩, ?_⟩
    · have sought : seekAct (program.positionOf place).act (program.positionOf place).scene
          (program.positionOf place).line (script.acts.drop (program.positionOf place).act) = _ := hsome'
      rw [Script.settle, sought, positionOf, hat]
    · exact (List.getElem?_eq_some_iff.1 hlines).1
    · rw [hat]
      exact hstanding

end Program

end Playscript
