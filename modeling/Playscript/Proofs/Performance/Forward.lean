/-
Performances that only go forward.

- `Program.Forward`: every jump leads to a scene that comes later in play order than the one it stands in;
- `counter_lt_of_later`: whatever scenes are empty, an operation comes before the beginning of every later scene;
- `Valid.step_forward`: so the counter grows with every step, past operations that a guard holds back too;
- `run_answers`, `run_ends_of_forward`: hence a run comes to an end, and performs no operation twice.
-/
import Playscript.Proofs.Performance.Counter

namespace Playscript

/-- made at a place, a reference to a scene is to a later one -/
def Reference.Forward (place : Location) : Reference → Prop
  | .scene target =>
    place.act < target.actFrom place ∨ (place.act = target.actFrom place ∧ place.scene < target.scene)
  | _ => True

/-- every jump leads to a scene that comes later in play order than the one it stands in -/
def Program.Forward (program : Program) : Prop :=
  ∀ reference ∈ program.references, reference.2.Forward reference.1

instance (place : Location) (reference : Reference) : Decidable (reference.Forward place) :=
  match reference with
  | .scene _ => inferInstanceAs (Decidable (_ ∨ _))
  | .character _ => inferInstanceAs (Decidable True)
  | .nested => inferInstanceAs (Decidable True)

instance (program : Program) : Decidable program.Forward :=
  inferInstanceAs (Decidable (∀ reference ∈ program.references, reference.2.Forward reference.1))

namespace Script

variable {script : Script}

/-! ## Earlier and later scenes -/

theorem earlier_prefix_scene (act : Nat) {scene scene' : Nat} (h : scene ≤ scene') :
    script.earlier act scene <+: script.earlier act scene' :=
  (List.prefix_append_right_inj _).2 (List.take_prefix_take_left h)

theorem earlier_prefix_act {act act' : Nat} (h : act < act') (scene scene' : Nat) :
    script.earlier act scene <+: script.earlier act' scene' := by
  have whole : script.earlier act scene <+: (script.acts.take (act + 1)).flatten := by
    cases hspans : script.acts[act]? with
    | none =>
      have hle := List.getElem?_eq_none_iff.1 hspans
      have all : script.earlier act scene = (script.acts.take (act + 1)).flatten := by
        rw [earlier, hspans, Option.getD_none, List.take_nil, List.append_nil, List.take_of_length_le hle,
          List.take_of_length_le (Nat.le_succ_of_le hle)]
      exact all ▸ List.prefix_refl _
    | some spans =>
      obtain ⟨hlt, rfl⟩ := List.getElem?_eq_some_iff.1 hspans
      rw [earlier, hspans, Option.getD_some, List.take_succ_eq_append_getElem hlt, List.flatten_append,
        List.flatten_singleton]
      exact (List.prefix_append_right_inj _).2 (List.take_prefix _ _)
  have before : (script.acts.take (act + 1)).flatten <+: (script.acts.take act').flatten := by
    obtain ⟨rest, hrest⟩ := List.take_prefix_take_left (l := script.acts) (Nat.succ_le_of_lt h)
    exact ⟨rest.flatten, by rw [← List.flatten_append, hrest]⟩
  exact (whole.trans before).trans (List.prefix_append _ _)

theorem sum_le_of_prefix {spans others : List Span} (h : spans <+: others) :
    (spans.map Span.length).sum ≤ (others.map Span.length).sum := by
  obtain ⟨rest, rfl⟩ := h
  rw [List.map_append, List.sum_append]
  exact Nat.le_add_right _ _

/-- **An operation comes before every later scene**, empty or not. -/
theorem counter_lt_of_later {position : Position} {span : Span}
    (hspan : script.spanAt? position.act position.scene = some span) (hline : position.line < span.length)
    {act scene : Nat} (hlater : position.act < act ∨ (position.act = act ∧ position.scene < scene)) :
    script.counter position < script.counter ⟨act, scene, 0⟩ := by
  have onward : script.earlier position.act (position.scene + 1) <+: script.earlier act scene := by
    rcases hlater with hact | ⟨rfl, hscene⟩
    · exact earlier_prefix_act hact _ _
    · exact earlier_prefix_scene _ hscene
  calc script.counter position
      < script.counter ⟨position.act, position.scene, span.length⟩ := Nat.add_lt_add_left hline _
    _ = script.counter ⟨position.act, position.scene + 1, 0⟩ := (counter_sceneEnd hspan).symm
    _ ≤ script.counter ⟨act, scene, 0⟩ := sum_le_of_prefix onward

end Script

/-! ## Jumps -/

/-- the operation of a cue jumps only if the cue says so, by itself or if its condition is met -/
theorem Cue.jump_of_flow {characters : List Ident} {act : Nat} {cue : Cue} {operation : Operation}
    (h : cue.operation? characters act = some operation) {i j : Nat} (hflow : operation.action.flow = .jump i j) :
    ∃ speaker s target, cue = .statement speaker s ∧ .scene target ∈ s.references ∧ target.act.getD act - 1 = i ∧
      target.scene - 1 = j := by
  cases cue with
  | direction d =>
    cases h
    cases d <;> cases hflow
  | statement speaker s =>
    obtain ⟨body, action, haction, hreferences, hshape⟩ := Operation.ofStatement?_cases h
    have hjump : action.flow = .jump i j := by
      rcases hshape with ⟨-, rfl⟩ | ⟨polarity, -, rfl⟩
      · exact hflow
      · exact hflow
    cases body with
    | jump target =>
      cases haction
      cases hjump
      exact ⟨speaker, s, target, rfl, hreferences ▸ List.mem_singleton_self _, rfl, rfl⟩
    | conditional polarity body => cases haction
    | _ =>
      cases haction
      cases hjump

/-- the operations of a program that only goes forward jump to later scenes -/
theorem Program.Sound.jump_later {program : Program} (h : program.Sound) (forward : program.Forward)
    {position : Position} {operation : Operation} (hat : program.lower.operationAt? position = some operation)
    {act scene : Nat} (hflow : operation.action.flow = .jump act scene) :
    position.act < act ∨ (position.act = act ∧ position.scene < scene) := by
  obtain ⟨i, j, k⟩ := position
  obtain ⟨span, hspan, -, -⟩ := Script.operationAt?_eq_some hat
  obtain ⟨found, foundScene, hfound, hfoundScene, operations⟩ := h.operationAt?_lower hspan
  obtain ⟨cue, hcue, hoperation⟩ := Option.bind_eq_some_iff.1 ((operations k).symm.trans hat)
  obtain ⟨line, hline, hcue⟩ := List.mem_flatMap.1 (List.mem_of_getElem? hcue)
  obtain ⟨speaker, s, target, rfl, htarget, hact, hscene⟩ := Cue.jump_of_flow hoperation hflow
  obtain ⟨statements, rfl, hs⟩ := Line.eq_of_statement_mem hcue
  have hhas : program.HasLine i j (.speech speaker statements) :=
    ⟨found.scenes.map (·.lines), foundScene.lines, by simp [Program.linesByScene, hfound], by simp [hfoundScene], hline⟩
  have hreference : (⟨i + 1, j + 1⟩, .scene target) ∈ program.references :=
    Program.mem_references_iff.2 ⟨i, j, _, rfl, hhas, List.mem_cons_of_mem _ (List.mem_flatMap.2 ⟨s, hs, htarget⟩)⟩
  have hforward := forward _ hreference
  rw [Reference.Forward, JumpTarget.actFrom] at hforward
  dsimp only at hforward hact hscene ⊢
  omega

namespace Performance

variable {σ : Type} {console : Console σ}

/-! ## Steps -/

/-- **The counter grows with every step** in a program that only goes forward. -/
theorem Valid.step_forward {program : Program} (sound : program.Sound) (forward : program.Forward)
    {p q : Performance σ} (h : p.Valid program.lower) (hstep : p.step program.lower console = (.ok true, q)) :
    program.lower.counter p.position < program.lower.counter q.position := by
  obtain ⟨operation, -, -, hat, hfollower⟩ := h.step_counter sound.lower_wellFormed program.lower_spoken hstep
  obtain ⟨span, hspan, hline, -⟩ := Script.operationAt?_eq_some hat
  have hsettled := h.position.settles.counter h.position
  rw [hfollower, Script.follower]
  split
  · rename_i act scene _ hflow
    rw [← hsettled]
    exact Script.counter_lt_of_later hspan hline (sound.jump_later forward hat hflow)
  · exact Nat.lt_succ_self _

/-! ## Runs -/

/-- a run ends in which the counter grows with every step -/
theorem run_answers {script : Script} (formed : script.WellFormed)
    (grows : ∀ p q : Performance σ, p.Valid script → p.step script console = (.ok true, q) →
      script.counter p.position < script.counter q.position) {limit : Nat} {p : Performance σ} (h : p.Valid script)
    (hlimit : script.operations.length < script.counter p.position + limit) :
    (p.run script console limit).1 ≠ none := by
  induction limit generalizing p with
  | zero => exact absurd hlimit (Nat.not_lt.2 (h.position.counter_le formed))
  | succ limit ih =>
    unfold run
    have next := (h.step console formed).valid
    rcases hstep : p.step script console with ⟨fault | ⟨_ | _⟩, q⟩
    · intro h
      cases h
    · intro h
      cases h
    · rw [hstep] at next
      refine ih next ?_
      have hgrows := grows p q h hstep
      omega

/-- **Programs without backward jumps come to an end.** Let a program have a script, and let every jump in it lead to a
later scene than the one it stands in. Wherever steps and runs have led, the start included, and with any console and
any input: a run from there ends, with the script or by a fault, within as many steps as there are operations and one
more, and it performs no operation twice. -/
theorem run_ends_of_forward {program : Program} {script : Script} (hcompile : program.compile = .ok script)
    (forward : program.Forward) {σ : Type} (console : Console σ) {p : Performance σ} (hp : p.Reached script console) :
    (∀ limit, script.operations.length < limit → (p.run script console limit).1 ≠ none) ∧
      ∀ limit, (p.played script console limit).Nodup := by
  obtain ⟨hdefects, rfl⟩ := Program.compile_eq_ok_iff.1 hcompile
  have sound := (Program.defects_eq_nil_iff program).1 hdefects
  have formed := sound.lower_wellFormed
  have valid := valid_of_reached formed hp
  have grows : ∀ p q : Performance σ, p.Valid program.lower → p.step program.lower console = (.ok true, q) →
      program.lower.counter p.position < program.lower.counter q.position :=
    fun p q hp hstep => hp.step_forward sound forward hstep
  refine ⟨fun limit hlimit => ?_, fun limit => ?_⟩
  · exact run_answers formed grows valid (Nat.lt_add_left _ hlimit)
  · obtain ⟨chain, -⟩ := valid.played_chain formed program.lower_spoken grows limit
    exact (List.isChain_iff_pairwise.1 chain).imp Nat.ne_of_lt

/-- the guest is led past the landing if the number that he gives is positive, then into the cellar, where nothing is
said, and by way of an act without scenes to the yard -/
def descent : Program where
  title := "The way down"
  characters := [⟨⟨"guest"⟩, "who is led"⟩, ⟨⟨"porter"⟩, "who knows the way"⟩]
  acts := [
    ⟨"The house", [
      ⟨"The attic", [
        .direction (.enter [⟨"guest"⟩, ⟨"porter"⟩]),
        .speech ⟨"porter"⟩ [.input .integer, .compare ⟨.greater, false, .character ⟨"guest"⟩, .constant 0⟩,
          .conditional true (.jump ⟨none, 3⟩)]]⟩,
      ⟨"The landing", [.speech ⟨"porter"⟩ [.output .integer]]⟩,
      ⟨"The stairs", [.speech ⟨"guest"⟩ [.jump ⟨some 2, 1⟩]]⟩]⟩,
    ⟨"The cellar", [⟨"The dark", []⟩]⟩,
    ⟨"Nowhere", []⟩,
    ⟨"The yard", [⟨"A gate", [.direction (.exeunt [])]⟩]⟩]

theorem run_ends_of_forward_descent : ∃ script, descent.compile = .ok script ∧ descent.Forward ∧
    let p := start script (Scripted.ofInputs ["7"] true)
    p.played script Scripted.console 8 = [0, 1, 2, 3, 5, 6] ∧
      (p.run script Scripted.console 8).1 ≠ none ∧ (p.played script Scripted.console 8).Nodup := by
  have hcompile : descent.compile = .ok descent.lower := rfl
  have forward : descent.Forward := by decide
  obtain ⟨ends, once⟩ := run_ends_of_forward hcompile forward Scripted.console
    (.start (Scripted.ofInputs ["7"] true))
  exact ⟨descent.lower, hcompile, forward, by decide, ends 8 (by decide), once 8⟩

end Performance

end Playscript
