/-
What becomes of the flag.

- `Decides`: only a comparison that succeeds sets the flag, nothing unsets it, and no action misses it (`act_decides`);
- `execute_cases`: so an operation that misses the flag is a conditional, and one that succeeds and leaves the flag unset
  is neither a conditional nor a comparison;
- `Undecided`: while the flag is unset, nothing before the position in its scene is a conditional or a comparison. Scenes
  are entered at their beginning, so every step keeps this;
- `step_waits`: hence a step that misses the flag does so at a conditional, the first operation of its scene to have to do
  with it (`AsksFirst`);
- `undecided_of_reached`: this holds wherever steps and runs lead.
-/
import Playscript.Proofs.Performance.Safety

namespace Playscript

def Action.isComparison : Action → Bool
  | .compare .. => true
  | _ => false

/-- a conditional or a spoken comparison: an operation that asks for the flag or sets it -/
def Operation.concernsFlag (operation : Operation) : Bool :=
  operation.guard.isSome || (operation.speaker.isSome && operation.action.isComparison)

namespace Performance

section Operations

variable {σ : Type} (script : Script) (p : Performance σ)

/-! ## What cannot miss the flag -/

theorem valueAt_ne_flagUnset (c : Nat) : p.valueAt script c ≠ .error .flagUnset := by
  unfold valueAt
  split <;> nofun

theorem addressee_ne_flagUnset (speaker : Nat) : p.addressee script speaker ≠ .error .flagUnset := by
  unfold addressee
  split <;> nofun

theorem computed_ne_flagUnset (answer : Except ArithmeticError Int64) : computed answer ≠ .error .flagUnset := by
  cases answer <;> nofun

theorem answered_ne_flagUnset {α : Type} (answer : Except ConsoleError α) : answered answer ≠ .error .flagUnset := by
  cases answer <;> nofun

theorem accept_ne_flagUnset (channel : Channel) (input : String) : accept channel input ≠ .error .flagUnset := by
  unfold accept
  split <;> split <;> nofun

theorem written_ne_flagUnset (channel : Channel) (n : Int64) : written channel n ≠ .error .flagUnset := by
  unfold written
  split
  · split <;> nofun
  · nofun

theorem bind_ne_flagUnset {α β : Type} {x : Except RuntimeError α} {f : α → Except RuntimeError β}
    (hx : x ≠ .error .flagUnset) (hf : ∀ a, f a ≠ .error .flagUnset) : x >>= f ≠ .error .flagUnset := by
  cases x with
  | ok a => exact hf a
  | error cause => exact fun h => hx (congrArg Except.error (Except.error.inj h))

theorem evaluate_ne_flagUnset (speaker : Nat) (operand : Operand) :
    p.evaluate script speaker operand ≠ .error .flagUnset := by
  induction operand with
  | constant n => nofun
  | binary op lhs rhs ihl ihr =>
    exact bind_ne_flagUnset ihl fun a => bind_ne_flagUnset ihr fun b => computed_ne_flagUnset (op.apply a b)
  | unary op operand ih => exact bind_ne_flagUnset ih fun n => computed_ne_flagUnset (op.apply n)
  | character i => exact p.valueAt_ne_flagUnset script i
  | role role =>
    cases role with
    | speaker => exact p.valueAt_ne_flagUnset script speaker
    | addressee =>
      exact bind_ne_flagUnset (p.addressee_ne_flagUnset script speaker) fun other => p.valueAt_ne_flagUnset script other

/-! ## Actions -/

variable {script p}

/-- an outcome does not come of a missing flag, the flag is not unset by it, and if the flag is still unset when all went
well there was no comparison -/
structure Decides (p : Performance σ) (comparison : Bool) (outcome : Outcome σ) : Prop where
  error : outcome.1 ≠ .error .flagUnset
  kept : outcome.2.flag = none → p.flag = none
  compared : ∀ flow, outcome.1 = .ok flow → outcome.2.flag = none → comparison = false

theorem decides_next {q : Performance σ} {flow : Flow} (h : q.flag = p.flag) : Decides p false (.ok flow, q) :=
  ⟨nofun, fun hq => h ▸ hq, fun _ _ _ => rfl⟩

theorem decides_error {q : Performance σ} {cause : RuntimeError} {comparison : Bool} (h : q.flag = p.flag)
    (hcause : cause ≠ .flagUnset) : Decides p comparison (.error cause, q) :=
  ⟨fun he => hcause (Except.error.inj he), fun hq => h ▸ hq, nofun⟩

theorem decides_given {α : Type} {q : Performance σ} {answer : Except RuntimeError α} {comparison : Bool}
    {proceed : α → Outcome σ} (h : q.flag = p.flag) (hanswer : answer ≠ .error .flagUnset)
    (hproceed : ∀ a, Decides p comparison (proceed a)) : Decides p comparison (q.given answer proceed) := by
  cases answer with
  | ok a => exact hproceed a
  | error cause => exact decides_error h fun he => hanswer (he ▸ rfl)

theorem enter_decides {q : Performance σ} (h : q.flag = p.flag) (characters : List Nat) :
    Decides p false (q.enter script characters) := by
  induction characters generalizing q with
  | nil => exact decides_next h
  | cons c rest ih =>
    unfold enter
    split
    · refine decides_error h fun he => ?_
      cases he
    · exact ih h

theorem leave_decides {q : Performance σ} (h : q.flag = p.flag) (characters : List Nat) :
    Decides p false (q.leave script characters) := by
  induction characters generalizing q with
  | nil => exact decides_next h
  | cons c rest ih =>
    unfold leave
    split
    · exact ih h
    · refine decides_error h fun he => ?_
      cases he

/-- a direction compares nothing, whatever it is asked to do -/
theorem direct_decides (action : Action) : Decides p false (p.direct script action) := by
  cases action with
  | enter characters => exact enter_decides rfl characters
  | exit c => exact leave_decides rfl [c]
  | exeunt characters =>
    cases characters with
    | nil => exact decides_next rfl
    | cons c rest => exact leave_decides rfl (c :: rest)
  | _ => exact decides_next rfl

theorem popStack_decides (c : Nat) : Decides p false (p.popStack script c) := by
  unfold popStack
  split
  · exact decides_error rfl nofun
  · exact decides_next rfl

variable (console : Console σ)

/-- **Only a comparison sets the flag**, and no action misses it. -/
theorem act_decides (speaker : Nat) (action : Action) :
    Decides p action.isComparison (p.act script console speaker action) := by
  have evaluated := p.evaluate_ne_flagUnset script speaker
  have addressed := p.addressee_ne_flagUnset script speaker
  cases action with
  | enter characters => exact direct_decides (.enter characters)
  | exit c => exact direct_decides (.exit c)
  | exeunt characters => exact direct_decides (.exeunt characters)
  | assign value =>
    exact decides_given rfl (evaluated value) fun n => decides_given rfl addressed fun other => decides_next rfl
  | compare relation negated lhs rhs =>
    exact decides_given rfl (evaluated lhs) fun a => decides_given rfl (evaluated rhs) fun b => ⟨nofun, nofun, nofun⟩
  | jump act scene => exact decides_next rfl
  | input channel =>
    refine decides_given rfl addressed fun other => ?_
    refine decides_given rfl (answered_ne_flagUnset _) fun input => ?_
    exact decides_given rfl (accept_ne_flagUnset channel input) fun n => decides_next rfl
  | output channel =>
    refine decides_given rfl addressed fun other => ?_
    refine decides_given rfl (p.valueAt_ne_flagUnset script other) fun n => ?_
    refine decides_given rfl (written_ne_flagUnset channel n) fun text => ?_
    exact decides_given rfl (answered_ne_flagUnset _) fun _ => decides_next rfl
  | remember value =>
    exact decides_given rfl (evaluated value) fun n => decides_given rfl addressed fun other => decides_next rfl
  | «recall» => exact decides_given rfl addressed fun other => popStack_decides other

/-! ## Operations -/

variable (script p)

theorem unguarded_decides (operation : Operation) :
    Decides p (operation.speaker.isSome && operation.action.isComparison) (p.unguarded script console operation) := by
  obtain ⟨speaker, guard, action⟩ := operation
  cases speaker with
  | none => exact direct_decides action
  | some speaker =>
    unfold unguarded
    dsimp only
    split
    · exact act_decides console speaker action
    · exact decides_error rfl nofun

/-- **An operation misses the flag** only if it is a conditional and the flag is unset; any other outcome leaves the flag
unset only if it was, and if all went well no operation that has to do with the flag does. -/
theorem execute_cases (operation : Operation) :
    (p.flag = none ∧ operation.guard.isSome = true ∧ p.execute script console operation = (.error .flagUnset, p)) ∨
      Decides p operation.concernsFlag (p.execute script console operation) := by
  have decides := p.unguarded_decides script console operation
  unfold execute Operation.concernsFlag
  cases operation.guard with
  | none => exact .inr decides
  | some polarity =>
    dsimp only
    cases hflag : p.flag with
    | none => exact .inl ⟨rfl, rfl, rfl⟩
    | some flag =>
      -- a flag that is set stays set
      refine .inr ?_
      dsimp only
      split
      · have set : ∀ {q : Prop}, (p.unguarded script console operation).2.flag = none → q := fun hnone =>
          absurd (hflag.symm.trans (decides.kept hnone)) nofun
        exact ⟨decides.error, set, fun _ _ => set⟩
      · exact ⟨nofun, id, fun _ _ hnone => absurd (hflag.symm.trans hnone) nofun⟩

end Operations

/-! ## Steps -/

/-- while the flag is unset, no operation before the position in its scene has to do with it -/
def Undecided {σ : Type} (script : Script) (p : Performance σ) : Prop :=
  p.flag = none → ∀ line < p.position.line, ∀ operation,
    script.operationAt? { p.position with line := line } = some operation → operation.concernsFlag = false

/-- an operation asks for the flag, and is the first one of its scene to have to do with it -/
structure AsksFirst (script : Script) (position : Position) : Prop where
  asks : ∃ operation, script.operationAt? position = some operation ∧ operation.guard.isSome = true
  first : ∀ line < position.line, ∀ operation,
    script.operationAt? { position with line := line } = some operation → operation.concernsFlag = false

/-- the outcome of a step: what stands before the position is without concern for the flag while that is unset, and a
flag is missed only where an operation is the first to ask for it -/
structure Waits {σ : Type} (script : Script) (outcome : Except Fault Bool × Performance σ) : Prop where
  undecided : outcome.2.Undecided script
  asks : ∀ fault, outcome.1 = .error fault → fault.error = .flagUnset → AsksFirst script fault.position

section Steps

variable {σ : Type} {script : Script} {p : Performance σ} (console : Console σ)

theorem undecided_of_line_eq_zero (h : p.position.line = 0) : p.Undecided script := by
  intro _ line hline
  rw [h] at hline
  exact absurd hline (Nat.not_lt_zero line)

theorem waits_fail (h : p.Undecided script) {error : RuntimeError}
    (herror : error = .flagUnset → AsksFirst script p.position) : Waits script (p.fail error) := by
  refine ⟨h, fun fault hfault => ?_⟩
  cases hfault
  exact herror

theorem waits_reported (h : p.Undecided script) (action : Action) : Waits script (p.reported script console action) := by
  unfold reported
  split
  · have told : Undecided script { p with console := (console.report (p.reportOf script action) p.console).2 } := h
    dsimp only
    cases (console.report (p.reportOf script action) p.console).1 with
    | ok _ => exact ⟨told, nofun⟩
    | error cause => exact waits_fail told nofun
  · exact ⟨h, nofun⟩

variable (formed : script.WellFormed)
include formed

theorem advance_waits (valid : p.Valid script) (h : p.Undecided script) :
    Waits script (p.advance script console) := by
  unfold advance
  rcases script.settle_cases p.position with hsettle | ⟨settled, span, hsettle, hspan, hline, hmoved⟩
  · rw [hsettle]
    exact ⟨undecided_of_line_eq_zero rfl, nofun⟩
  · obtain ⟨operation, hmem, hget, hat⟩ := formed.operationAt? hspan hline
    rw [hsettle]
    dsimp only
    rw [Option.bind_some, hget]
    have moved : Staged script { p with position := settled } := ⟨valid.memory, valid.steady, valid.once⟩
    have before : Undecided script { p with position := settled } := by
      rcases hmoved with rfl | hzero
      · exact h
      · exact undecided_of_line_eq_zero hzero
    have still := (moved.execute console (formed.operations operation hmem)).still
    rcases execute_cases script { p with position := settled } console operation with
      ⟨hflag, hguard, hmissed⟩ | decides
    · dsimp only
      rw [hmissed]
      exact waits_fail before fun _ => ⟨⟨operation, hat, hguard⟩, before hflag⟩
    · rcases hexecute : execute script console { p with position := settled } operation with ⟨answer, q⟩
      rw [hexecute] at still decides
      dsimp only at still ⊢
      rw [hexecute]
      cases answer with
      | error cause =>
        refine waits_fail (fun hnone => ?_) fun he => absurd (congrArg Except.error he) decides.error
        rw [still]
        exact before (decides.kept hnone)
      | ok flow =>
        refine waits_reported console ?_ operation.action
        cases flow with
        | jump act scene => exact undecided_of_line_eq_zero rfl
        | next =>
          intro hnone line hlt other hother
          have hposition : (q.follow .next).position = { settled with line := settled.line + 1 } := by
            rw [follow, still]
          rw [hposition] at hlt hother
          rcases Nat.lt_succ_iff_lt_or_eq.1 hlt with hlt | rfl
          · exact before (decides.kept hnone) line hlt other hother
          · cases hat.symm.trans hother
            exact decides.compared .next rfl hnone

/-- **A step never passes a comparison with the flag unset**, and misses the flag only where it is asked for first. -/
theorem step_waits (valid : p.Valid script) (h : p.Undecided script) : Waits script (p.step script console) := by
  unfold step
  cases p.status with
  | finished => exact ⟨h, fun fault hfault he => by cases hfault; cases he⟩
  | failed => exact ⟨h, fun fault hfault he => by cases hfault; cases he⟩
  | running => exact advance_waits console formed valid h
  | ready =>
    have cleared : Undecided script { p with status := .running, console := (console.clear p.console).2 } := h
    have ready : Valid script { p with status := .running, console := (console.clear p.console).2 } :=
      ⟨⟨valid.memory, valid.steady, valid.once⟩, valid.position⟩
    dsimp only
    cases (console.clear p.console).1 with
    | ok _ => exact advance_waits console formed ready cleared
    | error cause => exact waits_fail cleared nofun

end Steps

/-- **Whatever steps and runs lead to**, a comparison is never passed with the flag unset. -/
theorem undecided_of_reached {σ : Type} {script : Script} (formed : script.WellFormed) {console : Console σ}
    {p : Performance σ} (h : p.Reached script console) : p.Undecided script := by
  have kept : p.Valid script ∧ p.Undecided script :=
    holds_of_reached (P := fun p => p.Valid script ∧ p.Undecided script)
      (fun state => ⟨valid_start script state, undecided_of_line_eq_zero rfl⟩)
      (fun p hp => ⟨(hp.1.step console formed).valid, (step_waits console formed hp.1 hp.2).undecided⟩)
      (fun p state hp => ⟨⟨⟨hp.1.memory, hp.1.steady, hp.1.once⟩, hp.1.position⟩, hp.2⟩) h
  exact kept.2

end Performance

end Playscript
