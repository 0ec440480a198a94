/-
Where a performance can be.

- `Script.Denotes`: a position is past the last act, at the end of an act or of a scene, or that of an operation;
- `Script.spanAt?`, `Script.operationAt?`: the span of a scene, and the operation at a position;
- `settle_cases`: settling ends past the last act or at an operation, and moves to the first one of a scene if it moves
  at all.
-/
import Playscript.Performance.State
import Playscript.Proofs.Rehearsal.Cues
import Playscript.Proofs.Script.Bounds

namespace Playscript

namespace Script

variable (script : Script)

/-- the span of a scene, both the scene and its act counted from zero -/
def spanAt? (act scene : Nat) : Option Span := (script.acts[act]?).bind (·[scene]?)

/-- the operation at a position, if there is one -/
def operationAt? (position : Position) : Option Operation :=
  match script.spanAt? position.act position.scene with
  | some span => if position.line < span.length then script.operations[span.start + position.line]? else none
  | none => none

/-- a position that stands for something in the script -/
inductive Denotes : Position → Prop
  /-- past the last act -/
  | ended : Denotes ⟨script.acts.length, 0, 0⟩
  /-- past the last scene of an act -/
  | actEnd {act : Nat} {spans : List Span} : script.acts[act]? = some spans → Denotes ⟨act, spans.length, 0⟩
  /-- past the last operation of a scene -/
  | sceneEnd {act scene : Nat} {span : Span} : script.spanAt? act scene = some span → Denotes ⟨act, scene, span.length⟩
  | operation {position : Position} {span : Span} :
    script.spanAt? position.act position.scene = some span → position.line < span.length → Denotes position

variable {script}

theorem spanAt?_eq_some {act scene : Nat} {spans : List Span} {span : Span} (hspans : script.acts[act]? = some spans)
    (hspan : spans[scene]? = some span) : script.spanAt? act scene = some span := by
  rw [spanAt?, hspans, Option.bind_some, hspan]

/-- every operation of a scene is there -/
theorem WellFormed.operationAt? (h : script.WellFormed) {position : Position} {span : Span}
    (hspan : script.spanAt? position.act position.scene = some span) (hline : position.line < span.length) :
    ∃ operation ∈ script.operations, script.operations[span.start + position.line]? = some operation ∧
      script.operationAt? position = some operation := by
  obtain ⟨spans, hspans, hspan'⟩ := Option.bind_eq_some_iff.1 hspan
  have hlt := h.lt_length hspans hspan' hline
  have hget := List.getElem?_eq_getElem hlt
  refine ⟨_, List.mem_of_getElem? hget, hget, ?_⟩
  rw [Script.operationAt?, hspan]
  exact (if_pos hline).trans hget

theorem WellFormed.number_lt (h : script.WellFormed) {position : Position} {span : Span}
    (hspan : script.spanAt? position.act position.scene = some span) (hline : position.line < span.length) :
    span.start + position.line < script.operations.length := by
  obtain ⟨operation, -, hget, -⟩ := h.operationAt? hspan hline
  exact (List.getElem?_eq_some_iff.1 hget).1

theorem operationAt?_eq_some {position : Position} {operation : Operation}
    (h : script.operationAt? position = some operation) :
    ∃ span, script.spanAt? position.act position.scene = some span ∧ position.line < span.length ∧
      script.operations[span.start + position.line]? = some operation := by
  unfold operationAt? at h
  split at h
  · rename_i span hspan
    split at h
    · rename_i hline
      exact ⟨span, hspan, hline, h⟩
    · cases h
  · cases h

/-- the end of a scene, or an operation of it -/
theorem denotes_of_le {position : Position} {span : Span}
    (hspan : script.spanAt? position.act position.scene = some span) (hline : position.line ≤ span.length) :
    script.Denotes position := by
  rcases Nat.lt_or_eq_of_le hline with hlt | heq
  · exact .operation hspan hlt
  · obtain ⟨act, scene, line⟩ := position
    cases heq
    exact .sceneEnd hspan

theorem HasScene.spanAt? {act scene : Nat} (h : script.HasScene act scene) :
    ∃ span, script.spanAt? act scene = some span := by
  obtain ⟨spans, hspans, hlt⟩ := h
  exact ⟨_, spanAt?_eq_some hspans (List.getElem?_eq_getElem hlt)⟩

/-- an act is entered at its first scene, or at its end if it has none; past the last act is the end -/
theorem denotes_opening {act : Nat} (hact : act ≤ script.acts.length) : script.Denotes ⟨act, 0, 0⟩ := by
  rcases Nat.lt_or_eq_of_le hact with hlt | rfl
  · have hspans := List.getElem?_eq_getElem hlt
    cases hfirst : script.acts[act] with
    | nil =>
      rw [hfirst] at hspans
      exact .actEnd hspans
    | cons span rest =>
      rw [hfirst] at hspans
      exact denotes_of_le (spanAt?_eq_some hspans rfl) (Nat.zero_le _)
  · exact .ended

theorem denotes_start (script : Script) : script.Denotes ⟨0, 0, 0⟩ := denotes_opening (Nat.zero_le _)

end Script

/-! ## Settling -/

/-- seeking stays where it is, or ends at the first operation of a later scene -/
theorem seekScene_eq_some {spans : List Span} {scene line : Nat} {found : Nat × Nat} {index : Nat}
    (h : seekScene scene line (spans.drop scene) = some (found, index)) :
    ∃ span, spans[found.1]? = some span ∧ found.2 < span.length ∧ index = span.start + found.2 ∧
      (found = (scene, line) ∨ found.2 = 0) := by
  induction hrest : spans.drop scene generalizing scene line with
  | nil =>
    rw [hrest] at h
    cases h
  | cons span rest ih =>
    rw [hrest, seekScene] at h
    obtain ⟨hspan, hrest⟩ := of_drop_eq_cons hrest
    split at h
    · rename_i hline
      cases h
      exact ⟨span, hspan, hline, rfl, .inl rfl⟩
    · rw [← hrest] at h
      obtain ⟨span, hspan, hline, hindex, hmoved⟩ := ih h hrest
      exact ⟨span, hspan, hline, hindex, .inr (hmoved.elim (congrArg Prod.snd) id)⟩

theorem seekAct_eq_some {acts : List (List Span)} {act scene line : Nat} {found : Position} {index : Nat}
    (h : seekAct act scene line (acts.drop act) = some (found, index)) :
    ∃ spans span, acts[found.act]? = some spans ∧ spans[found.scene]? = some span ∧ found.line < span.length ∧
      index = span.start + found.line ∧ (found = ⟨act, scene, line⟩ ∨ found.line = 0) := by
  induction hrest : acts.drop act generalizing act scene line with
  | nil =>
    rw [hrest] at h
    cases h
  | cons spans rest ih =>
    rw [hrest, seekAct] at h
    obtain ⟨hspans, hrest⟩ := of_drop_eq_cons hrest
    split at h
    · rename_i scene' line' index' hfound
      cases h
      obtain ⟨span, hspan, hline, hindex, hmoved⟩ := seekScene_eq_some hfound
      refine ⟨spans, span, hspans, hspan, hline, hindex, ?_⟩
      rcases hmoved with hsame | hzero
      · cases hsame
        exact .inl rfl
      · exact .inr hzero
    · rw [← hrest] at h
      obtain ⟨spans, span, hspans, hspan, hline, hindex, hmoved⟩ := ih h hrest
      exact ⟨spans, span, hspans, hspan, hline, hindex, .inr (hmoved.elim (congrArg Position.line) id)⟩

/-- **Settling ends at an operation or past the last act**, and when it moves, then to the beginning of a scene. -/
theorem Script.settle_cases (script : Script) (position : Position) :
    script.settle position = (⟨script.acts.length, 0, 0⟩, none) ∨
      ∃ settled span, script.settle position = (settled, some (span.start + settled.line)) ∧
        script.spanAt? settled.act settled.scene = some span ∧ settled.line < span.length ∧
        (settled = position ∨ settled.line = 0) := by
  unfold settle
  split
  · rename_i settled index hsought
    obtain ⟨spans, span, hspans, hspan, hline, rfl, hmoved⟩ := seekAct_eq_some hsought
    exact .inr ⟨settled, span, rfl, spanAt?_eq_some hspans hspan, hline, hmoved⟩
  · exact .inl rfl

end Playscript
