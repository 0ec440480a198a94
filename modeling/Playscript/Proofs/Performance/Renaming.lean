/-
Two scripts that differ in the names of their characters perform alike.

The second script may also use other operands, as long as they are worth the same. `Action.Told` and `Operation.Told`
say so for actions and operations, and `Script.Told` for whole scripts.

- `Performance.Steady`: nobody is on stage but characters of the script;
- `execute_told`: an operation and its like do the same, but for the names in errors;
- `execute_steady`: an operation keeps performances steady.
-/
import Playscript.Performance.Step
import Playscript.Proofs.Script.Lowering
import Mathlib.Data.List.Forall2

namespace Playscript

/-! ## Names in errors -/

def RuntimeError.rename (f : Ident → Ident) : RuntimeError → RuntimeError
  | .alreadyOnStage id => .alreadyOnStage (f id)
  | .notOnStage id => .notOnStage (f id)
  | .noAddressee id => .noAddressee (f id)
  | .ambiguousAddressee speaker others => .ambiguousAddressee (f speaker) others
  | .emptyStack id => .emptyStack (f id)
  | .unsetValue id => .unsetValue (f id)
  | other => other

def Fault.rename (f : Ident → Ident) (fault : Fault) : Fault := ⟨fault.position, fault.error.rename f⟩

theorem mapError_bind {ε ε' α β : Type} (h : ε → ε') (x : Except ε α) (g : α → Except ε β) :
    (x >>= g).mapError h = x.mapError h >>= fun a => (g a).mapError h := by
  cases x <;> rfl

/-! ## Scripts that are alike -/

/-- two operands are worth the same to `speaker` in every performance -/
def Operand.Worth (script : Script) (speaker : Nat) (a b : Operand) : Prop :=
  b.Within script.characters.length ∧
    ∀ p : Performance Scripted, p.evaluate script speaker b = p.evaluate script speaker a

/-- an action and its like, whose operands are worth the same -/
inductive Action.Told (script : Script) (speaker : Nat) : Action → Action → Prop where
  | enter {characters : List Nat} (h : ∀ c ∈ characters, c < script.characters.length) :
    Told script speaker (.enter characters) (.enter characters)
  | exit {c : Nat} (h : c < script.characters.length) : Told script speaker (.exit c) (.exit c)
  | exeunt {characters : List Nat} (h : ∀ c ∈ characters, c < script.characters.length) :
    Told script speaker (.exeunt characters) (.exeunt characters)
  | assign {a b : Operand} (h : a.Worth script speaker b) : Told script speaker (.assign a) (.assign b)
  | compare (relation : Relation) (negated : Bool) {a b a' b' : Operand} (hl : a.Worth script speaker a')
    (hr : b.Worth script speaker b') :
    Told script speaker (.compare relation negated a b) (.compare relation negated a' b')
  | jump (act scene : Nat) : Told script speaker (.jump act scene) (.jump act scene)
  | input (channel : Channel) : Told script speaker (.input channel) (.input channel)
  | output (channel : Channel) : Told script speaker (.output channel) (.output channel)
  | remember {a b : Operand} (h : a.Worth script speaker b) : Told script speaker (.remember a) (.remember b)
  | recall : Told script speaker .recall .recall

/-- an operation and its like; whoever speaks is a character of the script -/
structure Operation.Told (script : Script) (operation told : Operation) : Prop where
  speaker : told.speaker = operation.speaker
  guard : told.guard = operation.guard
  within : ∀ speaker, operation.speaker = some speaker → speaker < script.characters.length
  action : operation.action.Told script (operation.speaker.getD 0) told.action

/-- a script and its like, in which `f` gives the names -/
structure Script.Told (f : Ident → Ident) (script told : Script) : Prop where
  characters : told.characters = script.characters.map f
  acts : told.acts = script.acts
  operations : List.Forall₂ (Operation.Told script) script.operations told.operations

namespace Performance

/-- nobody is on stage but characters of the script -/
def Steady {σ : Type} (script : Script) (p : Performance σ) : Prop := ∀ c ∈ p.stage, c < script.characters.length

/-- the performance with other reports -/
def withReports (reports : List String) (p : Performance Scripted) : Performance Scripted :=
  { p with console := { p.console with reports := reports } }

/-- an outcome with other names in its error and other reports -/
def reworded {α : Type} (f : Ident → Ident) (reports : List String)
    (outcome : Except RuntimeError α × Performance Scripted) : Except RuntimeError α × Performance Scripted :=
  (outcome.1.mapError (RuntimeError.rename f), outcome.2.withReports reports)

section Told

variable {f : Ident → Ident} {script told : Script} (ht : script.Told f told) (reports : List String)
include ht

theorem nameOf_told {c : Nat} (hc : c < script.characters.length) : told.nameOf c = f (script.nameOf c) := by
  simp [Script.nameOf, ht.characters, hc]

variable (p : Performance Scripted)

theorem valueAt_told {c : Nat} (hc : c < script.characters.length) :
    (p.withReports reports).valueAt told c = (p.valueAt script c).mapError (RuntimeError.rename f) := by
  have same : (p.withReports reports).memoryAt c = p.memoryAt c := rfl
  unfold valueAt
  rw [same]
  cases (p.memoryAt c).value with
  | some n => rfl
  | none =>
    rw [nameOf_told ht hc]
    rfl

theorem addressee_told {speaker : Nat} (hs : speaker < script.characters.length) :
    (p.withReports reports).addressee told speaker =
      (p.addressee script speaker).mapError (RuntimeError.rename f) := by
  have same : (p.withReports reports).stage = p.stage := rfl
  unfold addressee
  rw [same, nameOf_told ht hs]
  rcases p.stage.filter (· != speaker) with _ | ⟨other, _ | ⟨next, rest⟩⟩ <;> rfl

omit ht in
theorem mem_stage_of_addressee {σ : Type} {p : Performance σ} {speaker other : Nat}
    (h : p.addressee script speaker = .ok other) : other ∈ p.stage := by
  unfold addressee at h
  split at h
  · cases h
  · rename_i heq
    cases h
    exact (List.mem_filter.1 (heq ▸ List.mem_singleton_self _)).1
  · cases h

theorem evaluate_told (hp : p.Steady script) {speaker : Nat} (hs : speaker < script.characters.length)
    {operand : Operand} (ho : operand.Within script.characters.length) :
    (p.withReports reports).evaluate told speaker operand =
      (p.evaluate script speaker operand).mapError (RuntimeError.rename f) := by
  induction operand with
  | constant n => rfl
  | binary op lhs rhs ihl ihr =>
    simp only [evaluate, ihl ho.1, ihr ho.2, mapError_bind]
    congr 1
    funext a
    congr 1
    funext b
    cases op.apply a b <;> rfl
  | unary op operand ih =>
    simp only [evaluate, ih ho, mapError_bind]
    congr 1
    funext n
    cases op.apply n <;> rfl
  | character i => exact valueAt_told ht reports p ho
  | role role =>
    cases role with
    | speaker => exact valueAt_told ht reports p hs
    | addressee =>
      simp only [evaluate, addressee_told ht reports p hs]
      cases hother : p.addressee script speaker with
      | error cause => rfl
      | ok other => exact valueAt_told ht reports p (hp other (mem_stage_of_addressee hother))

/-! ### Directions -/

theorem enter_told {characters : List Nat} (h : ∀ c ∈ characters, c < script.characters.length) :
    (p.withReports reports).enter told characters = reworded f reports (p.enter script characters) := by
  induction characters generalizing p with
  | nil => rfl
  | cons c rest ih =>
    have hrest : ∀ c ∈ rest, c < script.characters.length := fun c hc => h c (List.mem_cons_of_mem _ hc)
    by_cases hc : c ∈ p.stage
    · have hc' : c ∈ (p.withReports reports).stage := hc
      simp only [enter, if_pos hc, if_pos hc', nameOf_told ht (h c List.mem_cons_self)]
      rfl
    · have hc' : c ∉ (p.withReports reports).stage := hc
      simp only [enter, if_neg hc, if_neg hc']
      exact ih { p with stage := p.stage ++ [c] } hrest

theorem leave_told {characters : List Nat} (h : ∀ c ∈ characters, c < script.characters.length) :
    (p.withReports reports).leave told characters = reworded f reports (p.leave script characters) := by
  induction characters generalizing p with
  | nil => rfl
  | cons c rest ih =>
    have hrest : ∀ c ∈ rest, c < script.characters.length := fun c hc => h c (List.mem_cons_of_mem _ hc)
    by_cases hc : c ∈ p.stage
    · have hc' : c ∈ (p.withReports reports).stage := hc
      simp only [leave, if_pos hc, if_pos hc']
      exact ih { p with stage := p.stage.erase c } hrest
    · have hc' : c ∉ (p.withReports reports).stage := hc
      simp only [leave, if_neg hc, if_neg hc', nameOf_told ht (h c List.mem_cons_self)]
      rfl

theorem direct_told {speaker : Nat} {action action' : Action} (ha : action.Told script speaker action') :
    (p.withReports reports).direct told action' = reworded f reports (p.direct script action) := by
  cases ha with
  | enter h => exact enter_told ht reports p h
  | exit h => exact leave_told ht reports p (by simpa using h)
  | @exeunt characters h =>
    cases characters with
    | nil => rfl
    | cons c rest => exact leave_told ht reports p h
  | _ => rfl

/-! ### What is spoken -/

omit ht in
theorem given_told {α : Type} {answer answer' : Except RuntimeError α}
    {proceed proceed' : α → Except RuntimeError Flow × Performance Scripted}
    (hanswer : answer' = answer.mapError (RuntimeError.rename f))
    (h : ∀ a, answer = .ok a → proceed' a = reworded f reports (proceed a)) :
    (p.withReports reports).given answer' proceed' = reworded f reports (p.given answer proceed) := by
  rw [hanswer]
  cases answer with
  | error cause => rfl
  | ok a => exact h a rfl

omit ht in
theorem readFrom_withReports (channel : Channel) (state : Scripted) :
    readFrom Scripted.console channel { state with reports := reports } =
      ((readFrom Scripted.console channel state).1,
        { (readFrom Scripted.console channel state).2 with reports := reports }) := by
  obtain ⟨inputs, printed, debug, _, clears⟩ := state
  cases channel <;> cases inputs <;> rfl

omit ht in
theorem answered_rename {α : Type} (answer : Except ConsoleError α) :
    answered answer = (answered answer).mapError (RuntimeError.rename f) := by
  cases answer <;> rfl

omit ht in
theorem accept_rename (channel : Channel) (input : String) :
    accept channel input = (accept channel input).mapError (RuntimeError.rename f) := by
  unfold accept
  split <;> split <;> rfl

omit ht in
theorem written_rename (channel : Channel) (n : Int64) :
    written channel n = (written channel n).mapError (RuntimeError.rename f) := by
  unfold written
  split
  · split <;> rfl
  · rfl

theorem popStack_told {c : Nat} (hc : c < script.characters.length) :
    (p.withReports reports).popStack told c = reworded f reports (p.popStack script c) := by
  have same : (p.withReports reports).memoryAt c = p.memoryAt c := rfl
  unfold popStack
  rw [same]
  cases (p.memoryAt c).stack with
  | nil =>
    rw [nameOf_told ht hc]
    rfl
  | cons top rest => rfl

section Spoken

variable (hp : p.Steady script) {speaker : Nat} (hs : speaker < script.characters.length)
include hp hs

theorem evaluate_worth {a b : Operand} (h : a.Worth script speaker b) :
    (p.withReports reports).evaluate told speaker b =
      (p.evaluate script speaker a).mapError (RuntimeError.rename f) := by
  rw [evaluate_told ht reports p hp hs h.1, h.2 p]

/-- **An action and its like do the same**, but for the names in errors. -/
theorem act_told {action action' : Action} (ha : action.Told script speaker action') :
    (p.withReports reports).act told Scripted.console speaker action' =
      reworded f reports (p.act script Scripted.console speaker action) := by
  have addressee := addressee_told ht reports p hs
  have within := fun other (h : p.addressee script speaker = .ok other) => hp other (mem_stage_of_addressee h)
  have worth := fun {a b : Operand} (h : a.Worth script speaker b) => evaluate_worth ht reports p hp hs h
  have direct := direct_told ht reports p ha
  cases ha with
  | enter h => exact direct
  | exit h => exact direct
  | exeunt h => exact direct
  | assign h =>
    exact given_told reports p (worth h) fun n _ => given_told reports p addressee fun other _ => rfl
  | compare relation negated hl hr =>
    exact given_told reports p (worth hl) fun a _ => given_told reports p (worth hr) fun b _ => rfl
  | jump act scene => rfl
  | input channel =>
    refine given_told reports p addressee fun other _ => ?_
    have read : readFrom Scripted.console channel (p.withReports reports).console = _ :=
      readFrom_withReports reports channel p.console
    rw [read]
    let after : Performance Scripted := { p with console := (readFrom Scripted.console channel p.console).2 }
    exact given_told reports after (answered_rename _) fun input _ =>
      given_told reports after (accept_rename channel input) fun n _ => rfl
  | output channel =>
    refine given_told reports p addressee fun other hother => ?_
    refine given_told reports p (valueAt_told ht reports p (within other hother)) fun n _ => ?_
    exact given_told reports p (written_rename channel n) fun text _ => rfl
  | remember h =>
    exact given_told reports p (worth h) fun n _ => given_told reports p addressee fun other _ => rfl
  | «recall» =>
    exact given_told reports p addressee fun other hother => popStack_told ht reports p (within other hother)

end Spoken

/-! ### Operations -/

/-- **An operation and its like do the same**, but for the names in errors. -/
theorem execute_told (hp : p.Steady script) {operation operation' : Operation}
    (ho : operation.Told script operation') :
    (p.withReports reports).execute told Scripted.console operation' =
      reworded f reports (p.execute script Scripted.console operation) := by
  obtain ⟨speaker, guard, action⟩ := operation
  obtain ⟨speaker', guard', action'⟩ := operation'
  obtain ⟨rfl, rfl, within, ha⟩ := ho
  have unguarded : (p.withReports reports).unguarded told Scripted.console ⟨speaker', guard', action'⟩ =
      reworded f reports (p.unguarded script Scripted.console ⟨speaker', guard', action⟩) := by
    cases speaker' with
    | none => exact direct_told ht reports p ha
    | some speaker =>
      have hs := within speaker rfl
      by_cases hstage : speaker ∈ p.stage
      · have hstage' : speaker ∈ (p.withReports reports).stage := hstage
        simp only [Performance.unguarded, if_pos hstage, if_pos hstage']
        exact act_told ht reports p hp hs ha
      · have hstage' : speaker ∉ (p.withReports reports).stage := hstage
        simp only [Performance.unguarded, if_neg hstage, if_neg hstage', nameOf_told ht hs]
        rfl
  cases guard' with
  | none => exact unguarded
  | some polarity =>
    have same : (p.withReports reports).flag = p.flag := rfl
    unfold execute
    dsimp only
    rw [same]
    cases hflag : p.flag with
    | none => rfl
    | some flag =>
      by_cases hpolarity : flag = polarity
      · simp only [if_pos hpolarity]
        exact unguarded
      · simp only [if_neg hpolarity]
        rfl

end Told

/-! ## Who is on stage -/

section Stage

variable {σ : Type} {script : Script} (console : Console σ)

theorem given_stage {α : Type} {p : Performance σ} (answer : Except RuntimeError α)
    {proceed : α → Except RuntimeError Flow × Performance σ} (h : ∀ a, (proceed a).2.stage = p.stage) :
    (p.given answer proceed).2.stage = p.stage := by
  cases answer with
  | error cause => rfl
  | ok a => exact h a

theorem enter_steady {p : Performance σ} (hp : p.Steady script) {characters : List Nat}
    (h : ∀ c ∈ characters, c < script.characters.length) : (p.enter script characters).2.Steady script := by
  induction characters generalizing p with
  | nil => exact hp
  | cons c rest ih =>
    by_cases hc : c ∈ p.stage
    · simpa only [enter, if_pos hc] using hp
    · simp only [enter, if_neg hc]
      refine ih (fun other ho => ?_) fun c hc => h c (List.mem_cons_of_mem _ hc)
      rcases List.mem_append.1 ho with ho | ho
      · exact hp other ho
      · exact List.mem_singleton.1 ho ▸ h c List.mem_cons_self

theorem leave_steady {p : Performance σ} (hp : p.Steady script) (characters : List Nat) :
    (p.leave script characters).2.Steady script := by
  induction characters generalizing p with
  | nil => exact hp
  | cons c rest ih =>
    by_cases hc : c ∈ p.stage
    · simp only [leave, if_pos hc]
      exact ih fun other ho => hp other (List.mem_of_mem_erase ho)
    · simpa only [leave, if_neg hc] using hp

theorem direct_steady {p : Performance σ} (hp : p.Steady script) {speaker : Nat} {action action' : Action}
    (ha : action.Told script speaker action') : (p.direct script action).2.Steady script := by
  cases ha with
  | enter h => exact enter_steady hp h
  | exit h => exact leave_steady hp _
  | @exeunt characters h =>
    cases characters with
    | nil => exact fun c hc => absurd hc List.not_mem_nil
    | cons c rest => exact leave_steady hp _
  | _ => exact hp

theorem act_steady {p : Performance σ} (hp : p.Steady script) {speaker : Nat} {action action' : Action}
    (ha : action.Told script speaker action') : (p.act script console speaker action).2.Steady script := by
  have steady : ∀ {q : Performance σ}, q.stage = p.stage → q.Steady script := fun h c hc => hp c (h ▸ hc)
  have direct := direct_steady hp ha
  cases ha with
  | enter h => exact direct
  | exit h => exact direct
  | exeunt h => exact direct
  | assign h => exact steady (given_stage _ fun n => given_stage _ fun other => rfl)
  | compare relation negated hl hr => exact steady (given_stage _ fun a => given_stage _ fun b => rfl)
  | jump act scene => exact hp
  | input channel =>
    refine steady (given_stage _ fun other => ?_)
    let after : Performance σ := { p with console := (readFrom console channel p.console).2 }
    exact given_stage (p := after) _ fun input => given_stage (p := after) _ fun n => rfl
  | output channel =>
    refine steady (given_stage _ fun other => given_stage _ fun n => given_stage _ fun text => ?_)
    let after : Performance σ := { p with console := (console.print text p.console).2 }
    exact given_stage (p := after) _ fun _ => rfl
  | remember h => exact steady (given_stage _ fun n => given_stage _ fun other => rfl)
  | «recall» =>
    refine steady (given_stage _ fun other => ?_)
    unfold popStack
    split <;> rfl

/-- **An operation brings nobody on stage but characters of the script.** -/
theorem execute_steady {p : Performance σ} (hp : p.Steady script) {operation operation' : Operation}
    (ho : operation.Told script operation') : (p.execute script console operation).2.Steady script := by
  have unguarded : (p.unguarded script console operation).2.Steady script := by
    unfold Performance.unguarded
    split
    · exact direct_steady hp ho.action
    · rename_i speaker hspeaker
      split
      · have ha := ho.action
        rw [hspeaker] at ha
        exact act_steady console hp ha
      · exact hp
  unfold execute
  split
  · exact unguarded
  · split
    · exact hp
    · split
      · exact unguarded
      · exact hp

end Stage

end Performance

end Playscript
