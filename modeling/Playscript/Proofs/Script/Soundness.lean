/-
What a program without defects can rely on.

- `Program.Sound`: every character is declared once, and every reference leads somewhere;
- `defects_eq_nil_iff`: a program has no defects exactly when it is sound;
- `Sound.line_mem`: so whoever a line mentions is declared.
-/
import Playscript.Script.Defects
import Playscript.Proofs.Renaming
import Mathlib.Data.List.Nodup

namespace Playscript

theorem repeated_eq_nil_iff (seen ids : List Ident) :
    repeated seen ids = [] ↔ (∀ id ∈ ids, id ∉ seen) ∧ ids.Nodup := by
  induction ids generalizing seen with
  | nil => simp [repeated]
  | cons id ids ih =>
    rw [repeated]
    split
    · rename_i h
      simp [h]
    · rename_i h
      rw [ih, List.nodup_cons]
      constructor
      · rintro ⟨hall, hnodup⟩
        refine ⟨?_, fun hmem => hall id hmem List.mem_cons_self, hnodup⟩
        intro other ho
        rcases List.mem_cons.1 ho with rfl | ho
        · exact h
        · exact fun hs => hall other ho (List.mem_cons_of_mem _ hs)
      · rintro ⟨hall, hid, hnodup⟩
        refine ⟨fun other ho hs => ?_, hnodup⟩
        rcases List.mem_cons.1 hs with rfl | hs
        · exact hid ho
        · exact hall other (List.mem_cons_of_mem _ ho) hs

namespace Statement

/-- a statement that is no conditional of a conditional refers to all that it mentions -/
theorem character_mem_references {statement : Statement} (h : .nested ∉ statement.references) {id : Ident}
    (hid : id ∈ statement.mentions) : .character id ∈ statement.references := by
  have simple : ∀ statement : Statement, .nested ∉ statement.bodyReferences → id ∈ statement.mentions →
      .character id ∈ statement.bodyReferences := by
    intro statement hn hid
    cases statement with
    | conditional polarity body => exact absurd List.mem_cons_self hn
    | assign value => exact List.mem_map_of_mem hid
    | compare c => exact List.mem_map_of_mem hid
    | remember value => exact List.mem_map_of_mem hid
    | jump target => cases hid
    | input channel => cases hid
    | output channel => cases hid
    | «recall» => cases hid
  cases statement with
  | conditional polarity body => exact simple body h hid
  | assign value => exact simple (.assign value) h hid
  | compare c => exact simple (.compare c) h hid
  | remember value => exact simple (.remember value) h hid
  | jump target => cases hid
  | input channel => cases hid
  | output channel => cases hid
  | «recall» => cases hid

end Statement

namespace Program

/-- the lines of a program by act and scene -/
def linesByScene (program : Program) : List (List (List Line)) :=
  program.acts.map fun act => act.scenes.map (·.lines)

/-- an act and a scene of it are there, both counted from zero -/
def HasScene (program : Program) (i j : Nat) : Prop :=
  ∃ scenes, program.linesByScene[i]? = some scenes ∧ j < scenes.length

/-- a line stands in a scene -/
def HasLine (program : Program) (i j : Nat) (line : Line) : Prop :=
  ∃ scenes lines, program.linesByScene[i]? = some scenes ∧ scenes[j]? = some lines ∧ line ∈ lines

/-- a reference made in an act, counted from one, leads somewhere -/
def Leads (program : Program) (act : Nat) : Reference → Prop
  | .character id => id ∈ program.declared
  | .scene target => ∃ i j, target.act.getD act = i + 1 ∧ target.scene = j + 1 ∧ program.HasScene i j
  | .nested => False

/-- every character is declared once, and every reference leads somewhere -/
structure Sound (program : Program) : Prop where
  nodup : program.declared.Nodup
  leads : ∀ i j line, program.HasLine i j line → ∀ reference ∈ line.references, program.Leads (i + 1) reference

theorem hasLine_of_mem {program : Program} {act : Act} (hact : act ∈ program.acts) {scene : Scene}
    (hscene : scene ∈ act.scenes) {line : Line} (hline : line ∈ scene.lines) : ∃ i j, program.HasLine i j line := by
  obtain ⟨i, hi⟩ := List.getElem?_of_mem hact
  obtain ⟨j, hj⟩ := List.getElem?_of_mem hscene
  exact ⟨i, j, act.scenes.map (·.lines), scene.lines, by simp [linesByScene, hi], by simp [hj], hline⟩

theorem mem_references_iff {program : Program} {place : Location} {reference : Reference} :
    (place, reference) ∈ program.references ↔
      ∃ i j line, place = ⟨i + 1, j + 1⟩ ∧ program.HasLine i j line ∧ reference ∈ line.references := by
  have counted : ∀ {α : Type} {items : List α} {a : α} {n : Nat},
      (a, n) ∈ items.zipIdx 1 ↔ ∃ i, n = i + 1 ∧ items[i]? = some a := by
    intro α items a n
    rw [List.mk_mem_zipIdx_iff_le_and_getElem?_sub]
    constructor
    · rintro ⟨hle, hget⟩
      exact ⟨n - 1, by omega, hget⟩
    · rintro ⟨i, rfl, hget⟩
      exact ⟨by omega, by simpa using hget⟩
  simp only [references, List.mem_flatMap, Prod.exists, List.mem_map, Prod.mk.injEq, counted, HasLine, linesByScene,
    List.getElem?_map, Option.map_eq_some_iff, Scene.references]
  constructor
  · rintro ⟨act, a, ⟨i, rfl, hact⟩, scene, s, ⟨j, rfl, hscene⟩, r, ⟨line, hline, hr⟩, rfl, rfl⟩
    exact ⟨i, j, line, rfl, ⟨_, scene.lines, ⟨act, hact, rfl⟩, by simp [hscene], hline⟩, hr⟩
  · rintro ⟨i, j, line, rfl, ⟨scenes, lines, ⟨act, hact, rfl⟩, hscene, hline⟩, hr⟩
    rw [List.getElem?_map, Option.map_eq_some_iff] at hscene
    obtain ⟨scene, hscene, rfl⟩ := hscene
    exact ⟨act, i + 1, ⟨i, rfl, hact⟩, scene, j + 1, ⟨j, rfl, hscene⟩, reference, ⟨line, hline, hr⟩, rfl, rfl⟩

theorem jumpDefect?_eq_none_iff {program : Program} {place : Location} {target : JumpTarget} :
    program.jumpDefect? place target = none ↔ program.Leads place.act (.scene target) := by
  simp only [jumpDefect?, Leads, JumpTarget.actFrom, HasScene, linesByScene, List.getElem?_map]
  cases ha : target.act.getD place.act with
  | zero => simp [scenesOf?]
  | succ i =>
    cases hact : program.acts[i]? with
    | none => simp [scenesOf?, hact]
    | some act =>
      simp only [scenesOf?, hact, Option.map_some, Nat.add_right_cancel_iff]
      split
      · rename_i hbound
        simp only [true_iff]
        exact ⟨i, target.scene - 1, rfl, by omega, _, by rw [hact]; rfl, by simp; omega⟩
      · rename_i hbound
        simp only [reduceCtorEq, false_iff]
        rintro ⟨_, j, rfl, hj, scenes, hscenes, hlt⟩
        rw [hact] at hscenes
        cases hscenes
        simp at hlt
        omega

/-- **A program without defects is a sound one.** -/
theorem defects_eq_nil_iff (program : Program) : program.defects = [] ↔ program.Sound := by
  have leads : ∀ place reference, program.defect? (place, reference) = none ↔ program.Leads place.act reference := by
    intro place reference
    cases reference with
    | character id => simp [defect?, Leads]
    | scene target => exact jumpDefect?_eq_none_iff
    | nested => simp [defect?, Leads]
  rw [defects, List.append_eq_nil_iff, List.map_eq_nil_iff, repeated_eq_nil_iff, List.filterMap_eq_nil_iff]
  constructor
  · rintro ⟨⟨-, hnodup⟩, hreferences⟩
    refine ⟨hnodup, fun i j line hline reference href => ?_⟩
    exact (leads ⟨i + 1, j + 1⟩ reference).1
      (hreferences _ (mem_references_iff.2 ⟨i, j, line, rfl, hline, href⟩))
  · rintro ⟨hnodup, hleads⟩
    refine ⟨⟨fun _ _ => List.not_mem_nil, hnodup⟩, ?_⟩
    rintro ⟨place, reference⟩ hmem
    obtain ⟨i, j, line, rfl, hline, href⟩ := mem_references_iff.1 hmem
    exact (leads _ reference).2 (hleads i j line hline reference href)

/-! ## What the lines of a sound program refer to -/

namespace Sound

variable {program : Program} (h : program.Sound) {i j : Nat}
include h

theorem statement_leads {speaker : Ident} {statements : List Statement}
    (hline : program.HasLine i j (.speech speaker statements)) {statement : Statement}
    (hstatement : statement ∈ statements) : ∀ reference ∈ statement.references, program.Leads (i + 1) reference :=
  fun reference href => h.leads i j _ hline reference
    (List.mem_cons_of_mem _ (List.mem_flatMap.2 ⟨statement, hstatement, href⟩))

/-- **Whoever a line mentions is declared.** -/
theorem line_mem {line : Line} (hline : program.HasLine i j line) : ∀ id ∈ line.mentions, id ∈ program.declared := by
  intro id hid
  cases line with
  | direction direction => exact h.leads i j _ hline (.character id) (List.mem_map_of_mem hid)
  | speech speaker statements =>
    rcases List.mem_cons.1 hid with rfl | hid
    · exact h.leads i j _ hline (.character id) List.mem_cons_self
    · obtain ⟨statement, hstatement, hid⟩ := List.mem_flatMap.1 hid
      have flat : .nested ∉ statement.references := fun hn => h.statement_leads hline hstatement _ hn
      exact h.statement_leads hline hstatement (.character id) (Statement.character_mem_references flat hid)

end Sound

/-- every character is declared once, and whoever a line mentions is declared -/
structure Closed (program : Program) : Prop where
  nodup : program.declared.Nodup
  declared : ∀ i j line, program.HasLine i j line → ∀ id ∈ line.mentions, id ∈ program.declared

/-- filling in free texts leaves all mentions declared -/
theorem Closed.mem_declared {program filled : Program} (h : program.Closed)
    (hlines : filled.linesByScene = program.linesByScene) :
    ∀ act ∈ filled.acts, ∀ scene ∈ act.scenes, ∀ line ∈ scene.lines, ∀ id ∈ line.mentions, id ∈ program.declared := by
  intro act hact scene hscene line hline
  obtain ⟨i, j, hhas⟩ := hasLine_of_mem hact hscene hline
  rw [HasLine, hlines] at hhas
  exact h.declared i j line hhas

theorem Sound.closed {program : Program} (h : program.Sound) : program.Closed := ⟨h.nodup, fun _ _ _ => h.line_mem⟩

end Program

end Playscript
