/-
What a fault leaves behind.

- `Halted`: nothing has changed but the stage, and that only if a direction about several characters has come to one who
  stops it;
- `Untold`: the step has gone well, but the console has failed to take the report of it;
- `fault_leaves`: a step that faults leaves the performance in one of these two ways;
- `crowded_moves_half`: the first does happen, so a fault need not leave the stage as it was.
-/
import Playscript.Proofs.Performance.Effects
import Playscript.Proofs.Performance.Safety

namespace Playscript

/-- the console, wanting no reports -/
def Console.silent {σ : Type} (console : Console σ) : Console σ := { console with wantsReports := fun _ => false }

namespace Performance

variable {σ : Type} (script : Script) (console : Console σ)

/-- `q` is the performance `p` with what a step has changed that came to a fault before its end -/
structure Halted (p : Performance σ) (fault : Fault) (q : Performance σ) : Prop where
  memory : q.memory = p.memory
  flag : q.flag = p.flag
  /-- characters who were named before the one who stopped the direction have moved -/
  stage : q.stage = p.stage ∨ ∃ operation, p.carried? script console = some operation ∧
    Moves script p.stage operation.action (.error fault.error) q.stage

/-- the step has gone well, but the console fails to take the report of it -/
inductive Untold (p : Performance σ) : Fault → Performance σ → Prop
  | reporting {q r : Performance σ} {operation : Operation} {cause : ConsoleError} {state : σ} :
    p.next? script console = some (q, operation) → p.step script console.silent = (.ok true, r) →
    console.wantsReports r.console = true →
    console.report (r.reportOf script operation.action) r.console = (.error cause, state) →
    Untold p ⟨r.position, .console cause⟩ { r with status := .failed, console := state }

section Steps

variable {script console} {p q : Performance σ} {fault : Fault}

theorem Begins.halted {r : Performance σ} (h : p.Begins console q) (memory : r.memory = q.memory) (flag : r.flag = q.flag)
    (stage : r.stage = q.stage) : Halted script console p fault r :=
  ⟨memory.trans h.memory, flag.trans h.flag, .inl (stage.trans h.stage)⟩

/-- an operation that fails has changed nothing but the stage, and that only by a direction -/
theorem Effect.halted {operation : Operation} {cause : RuntimeError} {r : Performance σ} (begins : p.Begins console q)
    (hcarried : p.carried? script console = some operation)
    (h : Effect script console q operation (.error cause, r)) (hfault : fault.error = cause) :
    Halted script console p fault r := by
  generalize houtcome : (Except.error cause, r) = outcome at h
  cases h with
  | stopped => cases houtcome; exact begins.halted rfl rfl rfl
  | refused => cases houtcome; exact begins.halted rfl rfl rfl
  | unprinted => cases houtcome; exact begins.halted rfl rfl rfl
  | moved hmoves =>
    cases houtcome
    rw [begins.stage, ← hfault] at hmoves
    exact ⟨begins.memory, begins.flag, .inr ⟨operation, hcarried, hmoves⟩⟩
  | _ => cases houtcome

/-- a console that wants no reports sees the operations done alike -/
theorem execute_silent (p : Performance σ) (operation : Operation) :
    p.execute script console.silent operation = p.execute script console operation := rfl

theorem next?_silent (p : Performance σ) : p.next? script console.silent = p.next? script console := rfl

variable (script console) in
/-- reporting fails only if the console does -/
theorem reported_cases (p : Performance σ) (action : Action) :
    (∃ q, p.reported script console action = (.ok true, q)) ∨
      ∃ cause state, console.wantsReports p.console = true ∧
        console.report (p.reportOf script action) p.console = (.error cause, state) ∧
        p.reported script console action =
          (.error ⟨p.position, .console cause⟩, { p with status := .failed, console := state }) := by
  unfold reported
  split
  · rename_i hwants
    rcases hreport : console.report (p.reportOf script action) p.console with ⟨cause | _, state⟩
    · exact .inr ⟨cause, state, hwants, rfl, rfl⟩
    · exact .inl ⟨_, rfl⟩
  · exact .inl ⟨_, rfl⟩

/-- **What a fault leaves behind.** Let a step come to a fault. Either memory and the flag are as they were before it,
and so is the stage, except that a direction that was stopped by one of its characters has moved those named before;
or the operation has been carried out in full, as on a console that wants no reports, and the console has failed to take
the report. -/
theorem fault_leaves (h : p.step script console = (.error fault, q)) :
    Halted script console p fault q ∨ Untold script console p fault q := by
  have stepped := h ▸ p.step_stepped script console
  generalize houtcome : (Except.error fault, q) = outcome at stepped
  cases stepped with
  | stuck => cases houtcome; exact .inl ⟨rfl, rfl, .inl rfl⟩
  | uncleared => cases houtcome; exact .inl ⟨rfl, rfl, .inl rfl⟩
  | ended => cases houtcome
  | @faulted _ r operation cause hnext hexecute =>
    cases houtcome
    have begins := (begins_of_next? hnext).1
    refine .inl ?_
    rcases @execute_effect _ script console _ operation with ⟨-, hidle⟩ | ⟨hallowed, heffect⟩
    · rw [hexecute] at hidle
      cases hidle
      exact begins.halted rfl rfl rfl
    · rw [hexecute] at heffect
      have hcarried : p.carried? script console = some operation := by rw [carried?, hnext]; exact if_pos hallowed
      have halted : Halted script console p ⟨r.position, cause⟩ r := heffect.halted begins hcarried rfl
      exact ⟨halted.memory, halted.flag, halted.stage⟩
  | @performed _ r operation flow hnext hexecute =>
    have silent : p.step script console.silent = (.ok true, r.follow flow) := by
      rw [step_of_next? (next?_silent p ▸ hnext), execute_silent, hexecute]
      rfl
    rcases reported_cases script console (r.follow flow) operation.action with
      ⟨q, htold⟩ | ⟨cause, state, hwants, hreport, hfailed⟩
    · cases houtcome.trans htold
    · cases houtcome.trans hfailed
      exact .inr (.reporting hnext silent hwants hreport)

end Steps

/-- one is there already when both are told to enter -/
def crowded : Program where
  title := "The corridor"
  characters := [⟨⟨"page"⟩, "who is late"⟩, ⟨⟨"usher"⟩, "who waits"⟩]
  acts := [⟨"Upstairs", [⟨"A door", [.direction (.enter [⟨"usher"⟩]), .direction (.enter [⟨"page"⟩, ⟨"usher"⟩])]⟩]⟩]

theorem crowded_compiles : crowded.compile = .ok crowded.lower := rfl

/-- **A fault need not leave the stage as it was**: the page has come in when the usher cannot. -/
theorem crowded_moves_half : ∃ script, crowded.compile = .ok script ∧
    ∃ p : Performance Scripted, p.Reached script Scripted.console ∧
      (p.step script Scripted.console).1 = .error ⟨⟨0, 0, 1⟩, .alreadyOnStage ⟨"usher"⟩⟩ ∧
      p.onStage script = [⟨"usher"⟩] ∧ (p.step script Scripted.console).2.onStage script = [⟨"usher"⟩, ⟨"page"⟩] := by
  refine ⟨crowded.lower, crowded_compiles, _, .ran 1 (.start (Scripted.ofInputs [] false)), ?_⟩
  decide

theorem fault_leaves_crowded :
    let p := ((start crowded.lower (Scripted.ofInputs [] false)).run crowded.lower Scripted.console 1).2
    ∃ fault q, p.step crowded.lower Scripted.console = (.error fault, q) ∧ q.stage ≠ p.stage ∧
      (Halted crowded.lower Scripted.console p fault q ∨ Untold crowded.lower Scripted.console p fault q) := by
  intro p
  have hstep : (p.step crowded.lower Scripted.console).1 = .error ⟨⟨0, 0, 1⟩, .alreadyOnStage ⟨"usher"⟩⟩ := by
    decide
  have hfault := Prod.ext hstep (rfl : (p.step crowded.lower Scripted.console).2 = _)
  exact ⟨_, _, hfault, by decide, fault_leaves hfault⟩

/-- where reports cannot be taken, the first fault comes when the usher is in -/
example : let console := Scripted.console.breaking .report
    let (answer, p) := (start crowded.lower (Scripted.ofInputs [] true)).step crowded.lower console
    answer = .error ⟨⟨0, 0, 1⟩, .console .broken⟩ ∧ p.onStage crowded.lower = [⟨"usher"⟩] := by decide +kernel

end Performance

end Playscript
