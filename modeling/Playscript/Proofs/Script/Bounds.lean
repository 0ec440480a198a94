/-
Scripts that refer to nothing that is not there.

- `Tiles`: spans lie one after the other, without gap or overlap;
- `Script.WellFormed`: every number in an operation is that of a character, every jump goes to a scene of the script,
  and the spans of the scenes, in order, tile the row of operations;
- `Sound.mem_operations`: an operation of the script of a sound program is the operation of some cue of the program;
- `Sound.lower_wellFormed`: so the script of a sound program is well-formed.
-/
import Playscript.Proofs.Rehearsal.Lowering

namespace Playscript

/-! ## Spans -/

/-- the spans lie one after the other from `start` to `stop` -/
def Tiles : (start : Nat) → List Span → (stop : Nat) → Prop
  | start, [], stop => start = stop
  | start, span :: rest, stop => span.start = start ∧ start ≤ span.stop ∧ Tiles span.stop rest stop

theorem Tiles.append {start middle stop : Nat} {spans others : List Span} (h : Tiles start spans middle)
    (ho : Tiles middle others stop) : Tiles start (spans ++ others) stop := by
  induction spans generalizing start with
  | nil =>
    cases h
    exact ho
  | cons span rest ih => exact ⟨h.1, h.2.1, ih h.2.2⟩

theorem Tiles.le {start stop : Nat} {spans : List Span} (h : Tiles start spans stop) : start ≤ stop := by
  induction spans generalizing start with
  | nil => exact Nat.le_of_eq h
  | cons span rest ih => exact Nat.le_trans h.2.1 (ih h.2.2)

/-- a span of a tiling begins before it ends, and ends within the tiling -/
theorem Tiles.bounds {start stop : Nat} {spans : List Span} (h : Tiles start spans stop) {span : Span}
    (hspan : span ∈ spans) : span.start ≤ span.stop ∧ span.stop ≤ stop := by
  induction spans generalizing start with
  | nil => cases hspan
  | cons first rest ih =>
    obtain ⟨rfl, hle, hrest⟩ := h
    rcases List.mem_cons.1 hspan with rfl | hspan
    · exact ⟨hle, hrest.le⟩
    · exact ih hrest hspan

theorem tiles_spansFrom (start : Nat) (lengths : List Nat) :
    Tiles start (spansFrom start lengths) (start + lengths.sum) := by
  induction lengths generalizing start with
  | nil => rfl
  | cons length rest ih =>
    refine ⟨rfl, Nat.le_add_right _ _, ?_⟩
    rw [List.sum_cons, ← Nat.add_assoc]
    exact ih (start + length)

/-- **Spans laid out in rows tile what they are laid out over.** -/
theorem tiles_spanRowsFrom (start : Nat) (rows : List (List Nat)) :
    Tiles start (spanRowsFrom start rows).flatten (start + rows.flatten.sum) := by
  induction rows generalizing start with
  | nil => rfl
  | cons row rows ih =>
    rw [spanRowsFrom_cons, List.flatten_cons, List.flatten_cons, List.sum_append, ← Nat.add_assoc]
    exact (tiles_spansFrom start row).append (ih (start + row.sum))

/-! ## Operations -/

/-- an act and a scene of it are there, both counted from zero -/
def Script.HasScene (script : Script) (act scene : Nat) : Prop :=
  ∃ spans, script.acts[act]? = some spans ∧ scene < spans.length

/-- an action is about characters and scenes of the script -/
def Action.Within (script : Script) : Action → Prop
  | .enter characters => ∀ c ∈ characters, c < script.characters.length
  | .exit c => c < script.characters.length
  | .exeunt characters => ∀ c ∈ characters, c < script.characters.length
  | .assign value => value.Within script.characters.length
  | .compare _ _ lhs rhs => lhs.Within script.characters.length ∧ rhs.Within script.characters.length
  | .jump act scene => script.HasScene act scene
  | .input _ => True
  | .output _ => True
  | .remember value => value.Within script.characters.length
  | .recall => True

/-- an operation is spoken by a character of the script, if by anybody, and is about characters and scenes of it -/
structure Operation.Within (script : Script) (operation : Operation) : Prop where
  speaker : ∀ speaker, operation.speaker = some speaker → speaker < script.characters.length
  action : operation.action.Within script

/-- every number in the script stands for something, and every operation belongs to one scene -/
structure Script.WellFormed (script : Script) : Prop where
  operations : ∀ operation ∈ script.operations, operation.Within script
  tiled : Tiles 0 script.acts.flatten script.operations.length

/-- the operations of a scene are operations of the script -/
theorem Script.WellFormed.lt_length {script : Script} (h : script.WellFormed) {act scene line : Nat} {spans : List Span}
    {span : Span} (hspans : script.acts[act]? = some spans) (hspan : spans[scene]? = some span)
    (hline : line < span.length) : span.start + line < script.operations.length := by
  have hmem : span ∈ script.acts.flatten :=
    List.mem_flatten.2 ⟨spans, List.mem_of_getElem? hspans, List.mem_of_getElem? hspan⟩
  have bounds := h.tiled.bounds hmem
  rw [Span.length] at hline
  omega

/-- an operation has the action of its statement, or of what a conditional guards, with the polarity for a guard -/
theorem Operation.ofStatement?_cases {characters : List Ident} {act speaker : Nat} {statement : Statement}
    {operation : Operation} (h : Operation.ofStatement? characters act speaker statement = some operation) :
    ∃ body action, Action.ofStatement? characters act body = some action ∧ body.bodyReferences = statement.references ∧
      (statement = body ∧ operation = ⟨some speaker, none, action⟩ ∨
        ∃ polarity, statement = .conditional polarity body ∧ operation = ⟨some speaker, some polarity, action⟩) := by
  cases statement with
  | conditional polarity body =>
    obtain ⟨action, haction, rfl⟩ := Option.map_eq_some_iff.1 h
    exact ⟨body, action, haction, rfl, .inr ⟨polarity, rfl, rfl⟩⟩
  | _ =>
    cases h
    exact ⟨_, _, rfl, rfl, .inl ⟨rfl, rfl⟩⟩

/-! ## The script of a sound program -/

namespace Program.Sound

variable {program : Program} (h : program.Sound)

/-- an operation of the script is the operation of some cue -/
theorem mem_operations {operation : Operation} (hmem : operation ∈ program.lower.operations) :
    ∃ i j line cue, program.HasLine i j line ∧ cue ∈ line.cues ∧
      cue.operation? program.declared (i + 1) = some operation := by
  obtain ⟨operations, hoperations, hmem⟩ := List.mem_flatten.1 hmem
  obtain ⟨row, hrow, hoperations⟩ := List.mem_flatten.1 hoperations
  obtain ⟨i, hi⟩ := List.getElem?_of_mem hrow
  obtain ⟨j, hj⟩ := List.getElem?_of_mem hoperations
  obtain ⟨scenes, lines, hscenes, hlines, rfl⟩ := operationsByScene_get hi hj
  obtain ⟨line, hline, hmem⟩ := List.mem_flatMap.1 hmem
  rw [Line.operations_eq] at hmem
  obtain ⟨cue, hcue, hoperation⟩ := List.mem_filterMap.1 hmem
  exact ⟨i, j, line, cue, ⟨scenes, lines, hscenes, hlines, hline⟩, hcue, hoperation⟩

include h

theorem lower_hasScene {i j : Nat} (hscene : program.HasScene i j) : program.lower.HasScene i j := by
  obtain ⟨scenes, hscenes, hj⟩ := hscene
  obtain ⟨hi, rfl⟩ := List.getElem?_eq_some_iff.1 hscenes
  have hlt : i < program.lower.acts.length := h.lower_covers.length_eq ▸ hi
  have covers := (h.lower_covers.get hlt hi).length_eq
  exact ⟨_, List.getElem?_eq_getElem hlt, covers ▸ hj⟩

/-- the action of a statement that refers to declared characters and to scenes that are there -/
theorem action_within {act : Nat} {statement : Statement} (hleads : ∀ reference ∈ statement.bodyReferences,
    program.Leads act reference) {action : Action}
    (haction : Action.ofStatement? program.declared act statement = some action) : action.Within program.lower := by
  have declared : ∀ value : Value, value.mentions.map Reference.character ⊆ statement.bodyReferences →
      (Operand.ofValue program.declared value).Within program.lower.characters.length :=
    fun value hsub => Operand.within_ofValue fun id hid => hleads _ (hsub (List.mem_map_of_mem hid))
  cases statement with
  | conditional polarity body => cases haction
  | assign value =>
    cases haction
    exact declared value (List.Subset.refl _)
  | remember value =>
    cases haction
    exact declared value (List.Subset.refl _)
  | compare c =>
    cases haction
    refine ⟨declared c.lhs ?_, declared c.rhs ?_⟩
    · exact List.map_subset _ (List.subset_append_left _ _)
    · exact List.map_subset _ (List.subset_append_right _ _)
  | jump target =>
    cases haction
    obtain ⟨i, j, hact, hscene, hthere⟩ := hleads (.scene target) (List.mem_singleton_self _)
    rw [Action.Within, hact, hscene]
    exact h.lower_hasScene hthere
  | input channel =>
    cases haction
    trivial
  | output channel =>
    cases haction
    trivial
  | «recall» =>
    cases haction
    trivial

theorem operation_within {i j : Nat} {line : Line} (hline : program.HasLine i j line) {cue : Cue}
    (hcue : cue ∈ line.cues) {operation : Operation}
    (hoperation : cue.operation? program.declared (i + 1) = some operation) : operation.Within program.lower := by
  have declared := h.line_mem hline
  cases cue with
  | direction d =>
    cases hoperation
    rw [Line.eq_of_direction_mem hcue] at declared
    refine ⟨nofun, ?_⟩
    cases d with
    | enter ids => exact List.forall_mem_map.2 fun id hid => numberOf_lt (declared id hid)
    | exit id => exact numberOf_lt (declared id (List.mem_singleton_self id))
    | exeunt ids => exact List.forall_mem_map.2 fun id hid => numberOf_lt (declared id hid)
  | statement speaker s =>
    have hleads := h.cue_leads hline hcue
    obtain ⟨statements, rfl, -⟩ := Line.eq_of_statement_mem hcue
    obtain ⟨body, action, haction, hreferences, hshape⟩ := Operation.ofStatement?_cases hoperation
    have within := h.action_within (hreferences ▸ hleads) haction
    have hspeaker := numberOf_lt (declared speaker List.mem_cons_self)
    rcases hshape with ⟨-, rfl⟩ | ⟨polarity, -, rfl⟩
    · exact ⟨fun _ he => Option.some.inj he ▸ hspeaker, within⟩
    · exact ⟨fun _ he => Option.some.inj he ▸ hspeaker, within⟩

/-- **The script of a sound program is well-formed.** -/
theorem lower_wellFormed : program.lower.WellFormed where
  operations operation hmem := by
    obtain ⟨i, j, line, cue, hline, hcue, hoperation⟩ := mem_operations hmem
    exact h.operation_within hline hcue hoperation
  tiled := by
    have tiles := tiles_spanRowsFrom 0
      ((operationsByScene program.declared program.acts).map fun row => row.map List.length)
    have hlength : program.lower.operations.length =
        ((operationsByScene program.declared program.acts).map fun row => row.map List.length).flatten.sum := by
      rw [← List.map_flatten, ← List.length_flatten]
      rfl
    rw [hlength]
    rwa [Nat.zero_add] at tiles

end Program.Sound

end Playscript
