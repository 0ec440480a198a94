/-
Watching a console.

- `Console.Shows`: one console does what another does, on states that show more;
- `step_shown`, `run_shown`: a performance goes the same way on both, so what the states show besides has no influence;
- `Console.recorded`: a console that keeps a record of what it is asked for and is otherwise as it was.
-/
import Playscript.Performance.Step

namespace Playscript

namespace Console

/-- what a console can be asked to do; whether it wants reports can be told without asking it to do anything -/
inductive Request where
  | clear
  | print (text : String)
  | readCharacter
  | readInteger
  | report (text : String)
  deriving DecidableEq, Repr

/-- does what is asked for and adds it to the record -/
def recording {σ α : Type} (request : Request) (perform : σ → α × σ) (state : σ × List Request) :
    α × σ × List Request :=
  ((perform state.1).1, (perform state.1).2, state.2 ++ [request])

/-- the console with a record of what it was asked for, from the first request to the last -/
def recorded {σ : Type} (console : Console σ) : Console (σ × List Request) where
  print := fun text => recording (.print text) (console.print text)
  readCharacter := recording .readCharacter console.readCharacter
  readInteger := recording .readInteger console.readInteger
  wantsReports := fun state => console.wantsReports state.1
  report := fun text => recording (.report text) (console.report text)
  clear := recording .clear console.clear

/-- what came of a request, with the state as `view` shows it -/
def viewed {τ σ α : Type} (view : τ → σ) (outcome : α × τ) : α × σ := (outcome.1, view outcome.2)

/-- `coarse` does on what a state shows what `fine` does on the state -/
structure Shows {τ σ : Type} (view : τ → σ) (fine : Console τ) (coarse : Console σ) : Prop where
  print : ∀ text state, coarse.print text (view state) = viewed view (fine.print text state)
  readCharacter : ∀ state, coarse.readCharacter (view state) = viewed view (fine.readCharacter state)
  readInteger : ∀ state, coarse.readInteger (view state) = viewed view (fine.readInteger state)
  wantsReports : ∀ state, coarse.wantsReports (view state) = fine.wantsReports state
  report : ∀ text state, coarse.report text (view state) = viewed view (fine.report text state)
  clear : ∀ state, coarse.clear (view state) = viewed view (fine.clear state)

theorem recorded_shows {σ : Type} (console : Console σ) : Shows Prod.fst console.recorded console :=
  ⟨fun _ _ => rfl, fun _ => rfl, fun _ => rfl, fun _ => rfl, fun _ _ => rfl, fun _ => rfl⟩

end Console

namespace Performance

variable {τ σ : Type} (view : τ → σ)

/-- the performance with what `view` shows of the state of its console -/
def shown (p : Performance τ) : Performance σ := ⟨p.memory, p.stage, p.flag, p.position, p.status, view p.console⟩

/-- the outcome of something that was done, likewise -/
def showing {α : Type} (outcome : α × Performance τ) : α × Performance σ := (outcome.1, outcome.2.shown view)

section Operations

variable (script : Script) (p : Performance τ)

/-! ## Values and directions -/

theorem evaluate_shown (speaker : Nat) (operand : Operand) :
    (p.shown view).evaluate script speaker operand = p.evaluate script speaker operand := by
  induction operand with
  | binary op lhs rhs ihl ihr => rw [evaluate, evaluate, ihl, ihr]
  | unary op operand ih => rw [evaluate, evaluate, ih]
  | constant n => rfl
  | character i => rfl
  | role role => cases role <;> rfl

theorem enter_shown (characters : List Nat) :
    (p.shown view).enter script characters = showing view (p.enter script characters) := by
  induction characters generalizing p with
  | nil => rfl
  | cons c rest ih =>
    have hstage : (p.shown view).stage = p.stage := rfl
    unfold enter
    rw [hstage]
    by_cases hc : c ∈ p.stage
    · rw [if_pos hc, if_pos hc]
      rfl
    · rw [if_neg hc, if_neg hc]
      exact ih { p with stage := p.stage ++ [c] }

theorem leave_shown (characters : List Nat) :
    (p.shown view).leave script characters = showing view (p.leave script characters) := by
  induction characters generalizing p with
  | nil => rfl
  | cons c rest ih =>
    have hstage : (p.shown view).stage = p.stage := rfl
    unfold leave
    rw [hstage]
    by_cases hc : c ∈ p.stage
    · rw [if_pos hc, if_pos hc]
      exact ih { p with stage := p.stage.erase c }
    · rw [if_neg hc, if_neg hc]
      rfl

theorem direct_shown (action : Action) :
    (p.shown view).direct script action = showing view (p.direct script action) := by
  cases action with
  | enter characters => exact p.enter_shown view script characters
  | exit c => exact p.leave_shown view script [c]
  | exeunt characters =>
    cases characters with
    | nil => rfl
    | cons c rest => exact p.leave_shown view script (c :: rest)
  | _ => rfl

theorem popStack_shown (c : Nat) : (p.shown view).popStack script c = showing view (p.popStack script c) := by
  have hmemory : (p.shown view).memoryAt c = p.memoryAt c := rfl
  unfold popStack
  rw [hmemory]
  cases (p.memoryAt c).stack <;> rfl

variable {p} in
theorem given_shown {α : Type} {answer answer' : Except RuntimeError α}
    {proceed : α → Except RuntimeError Flow × Performance τ} {proceed' : α → Except RuntimeError Flow × Performance σ}
    (hanswer : answer' = answer) (h : ∀ a, proceed' a = showing view (proceed a)) :
    (p.shown view).given answer' proceed' = showing view (p.given answer proceed) := by
  rw [hanswer]
  cases answer with
  | ok a => exact h a
  | error cause => rfl

end Operations

/-! ## What is spoken -/

section Steps

variable {view} {fine : Console τ} {coarse : Console σ} (h : Console.Shows view fine coarse)
variable (script : Script) (p : Performance τ)
include h

theorem readFrom_shown (channel : Channel) (state : τ) :
    readFrom coarse channel (view state) = Console.viewed view (readFrom fine channel state) := by
  cases channel with
  | character => exact h.readCharacter state
  | integer => exact h.readInteger state

/-- **Whatever is said is done alike** on both consoles. -/
theorem act_shown (speaker : Nat) (action : Action) :
    (p.shown view).act script coarse speaker action = showing view (p.act script fine speaker action) := by
  have evaluated := p.evaluate_shown view script speaker
  have addressee : (p.shown view).addressee script speaker = p.addressee script speaker := rfl
  cases action with
  | enter characters => exact p.direct_shown view script (.enter characters)
  | exit c => exact p.direct_shown view script (.exit c)
  | exeunt characters => exact p.direct_shown view script (.exeunt characters)
  | assign value => exact given_shown view (evaluated value) fun n => given_shown view addressee fun other => rfl
  | compare relation negated lhs rhs =>
    exact given_shown view (evaluated lhs) fun a => given_shown view (evaluated rhs) fun b => rfl
  | jump act scene => rfl
  | input channel =>
    refine given_shown view addressee fun other => ?_
    have read : readFrom coarse channel (p.shown view).console = _ := readFrom_shown h channel p.console
    rw [read]
    let after : Performance τ := { p with console := (readFrom fine channel p.console).2 }
    exact given_shown (p := after) view rfl fun input => given_shown (p := after) view rfl fun n => rfl
  | output channel =>
    refine given_shown view addressee fun other => ?_
    refine given_shown view rfl fun n => given_shown view rfl fun text => ?_
    have printed : coarse.print text (p.shown view).console = _ := h.print text p.console
    rw [printed]
    let after : Performance τ := { p with console := (fine.print text p.console).2 }
    exact given_shown (p := after) view rfl fun _ => rfl
  | remember value => exact given_shown view (evaluated value) fun n => given_shown view addressee fun other => rfl
  | «recall» => exact given_shown view addressee fun other => p.popStack_shown view script other

theorem unguarded_shown (operation : Operation) :
    (p.shown view).unguarded script coarse operation = showing view (p.unguarded script fine operation) := by
  have hstage : (p.shown view).stage = p.stage := rfl
  unfold unguarded
  cases operation.speaker with
  | none => exact p.direct_shown view script operation.action
  | some speaker =>
    dsimp only
    rw [hstage]
    by_cases hs : speaker ∈ p.stage
    · rw [if_pos hs, if_pos hs]
      exact act_shown h script p speaker operation.action
    · rw [if_neg hs, if_neg hs]
      rfl

theorem execute_shown (operation : Operation) :
    (p.shown view).execute script coarse operation = showing view (p.execute script fine operation) := by
  have hflag : (p.shown view).flag = p.flag := rfl
  have unguarded := unguarded_shown h script p operation
  unfold execute
  rw [hflag]
  cases operation.guard with
  | none => exact unguarded
  | some polarity =>
    cases p.flag with
    | none => rfl
    | some flag =>
      dsimp only
      by_cases hagree : flag = polarity
      · rw [if_pos hagree, if_pos hagree]
        exact unguarded
      · rw [if_neg hagree, if_neg hagree]
        rfl

/-! ## Steps and runs -/

theorem reported_shown (action : Action) :
    (p.shown view).reported script coarse action = showing view (p.reported script fine action) := by
  have wants : coarse.wantsReports (p.shown view).console = fine.wantsReports p.console := h.wantsReports p.console
  have reports : coarse.report ((p.shown view).reportOf script action) (p.shown view).console = _ :=
    h.report (p.reportOf script action) p.console
  unfold reported
  rw [wants, reports]
  by_cases hwants : fine.wantsReports p.console = true
  · rw [if_pos hwants, if_pos hwants]
    unfold Console.viewed
    rcases fine.report (p.reportOf script action) p.console with ⟨_ | _, state⟩ <;> rfl
  · rw [if_neg hwants, if_neg hwants]
    rfl

theorem advance_shown : (p.shown view).advance script coarse = showing view (p.advance script fine) := by
  have hposition : (p.shown view).position = p.position := rfl
  unfold advance
  rw [hposition]
  rcases script.settle p.position with ⟨position, index⟩
  dsimp only
  let settled : Performance τ := { p with position := position }
  cases index.bind fun i => script.operations[i]? with
  | none => rfl
  | some operation =>
    have executed : execute script coarse { p.shown view with position := position } operation = _ :=
      execute_shown h script settled operation
    dsimp only
    rw [executed]
    unfold showing
    rcases settled.execute script fine operation with ⟨cause | flow, q⟩
    · rfl
    · have followed : (q.shown view).follow flow = (q.follow flow).shown view := by cases flow <;> rfl
      dsimp only
      rw [followed]
      exact reported_shown h script (q.follow flow) operation.action

/-- **A step goes the same way on both consoles.** -/
theorem step_shown : (p.shown view).step script coarse = showing view (p.step script fine) := by
  have hstatus : (p.shown view).status = p.status := rfl
  have cleared : coarse.clear (p.shown view).console = _ := h.clear p.console
  unfold step
  rw [hstatus]
  cases p.status with
  | ready =>
    rw [cleared]
    unfold Console.viewed
    rcases fine.clear p.console with ⟨cause | _, state⟩
    · rfl
    · exact advance_shown h script { p with status := .running, console := state }
  | running => exact advance_shown h script p
  | finished => rfl
  | failed => rfl

theorem run_shown (limit : Nat) : (p.shown view).run script coarse limit = showing view (p.run script fine limit) := by
  induction limit generalizing p with
  | zero => rfl
  | succ limit ih =>
    unfold run
    rw [step_shown h script p]
    unfold showing
    rcases p.step script fine with ⟨fault | goes, q⟩
    · rfl
    · cases goes with
      | true => exact ih q
      | false => rfl

end Steps

end Performance

end Playscript
