/-
A performance from outside: rows of calls.

- `Call.made`, `making`: one call, which is a step or a run, and a row of them;
- `Call.induct`: what a call does follows from what steps do, since a run goes on while steps answer that there is more;
- `Over`: the performance has ended or failed, as every answer says but the one that it goes on (`Call.over_of_made`);
  then calls do nothing but tell so (`making_of_over`);
- `Adds`, `Opens`: what becomes of the record of a console. The first step asks the console to clear itself before it
  asks for anything else, and nothing after that asks for it again (`step_kept`, `making_opens`);
- `performs_once`: hence a performance starts once and ends once.
-/
import Playscript.Proofs.Performance.Interrupted
import Playscript.Proofs.Performance.Observing

namespace Playscript

namespace Performance

/-- what can be asked of a performance; a run is cut off after its first step and `more` steps, for it may have no end -/
inductive Call where
  | step
  | run (more : Nat)
  deriving DecidableEq, Repr

section Calls

variable {σ : Type} (script : Script) (console : Console σ)

/-- how far a run has come, in the terms of a step -/
def runAnswer : Option (Except Fault Unit) → Except Fault Bool
  | none => .ok true
  | some (.ok ()) => .ok false
  | some (.error fault) => .error fault

/-- makes a call: `true` says that the performance goes on, `false` that the script has ended -/
def Call.made (p : Performance σ) : Call → Except Fault Bool × Performance σ
  | .step => p.step script console
  | .run more =>
    let (answer, p) := p.run script console (more + 1)
    (runAnswer answer, p)

/-- makes calls one after another and gathers the answers -/
def making : List Call → Performance σ → List (Except Fault Bool) × Performance σ
  | [], p => ([], p)
  | call :: calls, p =>
    let (answer, p) := call.made script console p
    let (answers, p) := making calls p
    (answer :: answers, p)

/-- what a console has been asked for when a performance has taken a row of calls -/
def requests (state : σ) (calls : List Call) : List Console.Request :=
  (making script console.recorded calls (start script (state, []))).2.console.2

variable {script console}

theorem making_append_snd (before after : List Call) (p : Performance σ) :
    (making script console (before ++ after) p).2 =
      (making script console after (making script console before p).2).2 := by
  induction before generalizing p with
  | nil => rfl
  | cons call before ih => exact ih _

theorem Call.made_run_zero (p : Performance σ) : (Call.run 0).made script console p = p.step script console := by
  simp only [made]
  rw [Performance.run]
  rcases p.step script console with ⟨fault | ⟨_ | _⟩, q⟩ <;> rfl

theorem Call.made_run_succ (more : Nat) (p : Performance σ) :
    (Call.run (more + 1)).made script console p =
      match p.step script console with
      | (.ok true, q) => (Call.run more).made script console q
      | outcome => outcome := by
  simp only [made]
  rw [Performance.run]
  rcases p.step script console with ⟨fault | ⟨_ | _⟩, q⟩ <;> rfl

/-- what holds of single steps, and passes on to the step before when that one goes on, holds of every call -/
theorem Call.induct {P : Performance σ → Except Fault Bool × Performance σ → Prop}
    (hstep : ∀ p, P p (p.step script console))
    (hmore : ∀ p q outcome, p.step script console = (.ok true, q) → P q outcome → P p outcome)
    (call : Call) (p : Performance σ) : P p (call.made script console p) := by
  cases call with
  | step => exact hstep p
  | run more =>
    induction more generalizing p with
    | zero =>
      rw [made_run_zero]
      exact hstep p
    | succ more ih =>
      have first := hstep p
      rw [made_run_succ]
      rcases hp : p.step script console with ⟨fault | ⟨_ | _⟩, q⟩ <;> rw [hp] at first
      · exact first
      · exact first
      · exact hmore p q _ hp (ih q)

/-! ## The end -/

/-- the performance has ended, or a fault has stopped it -/
def Over (p : Performance σ) : Prop := p.status = .finished ∨ p.status = .failed

/-- what every call makes of a performance that is over -/
def halted (p : Performance σ) : Except Fault Bool × Performance σ := (.error ⟨p.position, .halted⟩, p)

theorem step_of_over {p : Performance σ} (h : p.Over) : p.step script console = p.halted := by
  unfold step
  rcases h with h | h <;> rw [h] <;> rfl

theorem Call.made_of_over {p : Performance σ} (h : p.Over) (call : Call) : call.made script console p = p.halted := by
  refine call.induct (P := fun p outcome => p.Over → outcome = p.halted) (fun p h => step_of_over h) ?_ p h
  intro p q outcome hp _ h
  rw [step_of_over h] at hp
  cases hp

/-- **When a performance is over, calls do nothing** but tell so, whatever console they are made with. -/
theorem making_of_over {p : Performance σ} (h : p.Over) (calls : List Call) :
    making script console calls p = (calls.map fun _ => .error ⟨p.position, .halted⟩, p) := by
  induction calls with
  | nil => rfl
  | cons call calls ih =>
    rw [making, call.made_of_over h]
    simp only [halted, ih, List.map_cons]

/-- an answer tells the status in which it leaves the performance -/
structure Tells (outcome : Except Fault Bool × Performance σ) : Prop where
  begun : outcome.2.status ≠ .ready
  ends : outcome.1 ≠ .ok true → outcome.2.Over

theorem Effect.status {p : Performance σ} {operation : Operation} {outcome : Outcome σ}
    (h : Effect script console p operation outcome) : outcome.2.status = p.status := by
  cases h <;> rfl

theorem execute_status (p : Performance σ) (operation : Operation) :
    (p.execute script console operation).2.status = p.status := by
  rcases @execute_effect _ script console p operation with ⟨-, hidle⟩ | ⟨-, heffect⟩
  · rw [hidle]
  · exact heffect.status

theorem fail_tells (p : Performance σ) (cause : RuntimeError) : Tells (p.fail cause) where
  begun := nofun
  ends := fun _ => .inr rfl

theorem reported_tells {p : Performance σ} (h : p.status = .running) (action : Action) :
    Tells (p.reported script console action) := by
  have goes : ∀ {q : Performance σ}, q.status = p.status → Tells (.ok true, q) := fun hq =>
    ⟨by rw [hq, h]; nofun, fun hne => absurd rfl hne⟩
  unfold reported
  split
  · rcases console.report (p.reportOf script action) p.console with ⟨cause | _, state⟩
    · exact fail_tells _ _
    · exact goes rfl
  · exact goes rfl

variable (script console) in
/-- either the script has ended, or an operation is run at the place where the position settles -/
theorem advance_cases (p : Performance σ) :
    (∃ position, p.advance script console = (.ok false, { p with position := position, status := .finished })) ∨
      ∃ position operation answer q,
        execute script console { p with position := position } operation = (answer, q) ∧
        p.advance script console =
          match answer with
          | .error cause => q.fail cause
          | .ok flow => (q.follow flow).reported script console operation.action := by
  unfold advance
  rcases script.settle p.position with ⟨position, index⟩
  dsimp only
  cases index.bind fun i => script.operations[i]? with
  | none => exact .inl ⟨position, rfl⟩
  | some operation =>
    rcases hexecute : execute script console { p with position := position } operation with ⟨answer, q⟩
    refine .inr ⟨position, operation, answer, q, hexecute, ?_⟩
    dsimp only
    rw [hexecute]
    cases answer <;> rfl

theorem advance_tells {p : Performance σ} (h : p.status = .running) : Tells (p.advance script console) := by
  rcases p.advance_cases script console with
    ⟨position, hended⟩ | ⟨position, operation, answer, q, hexecute, hadvance⟩
  · rw [hended]
    exact ⟨nofun, fun _ => .inl rfl⟩
  · have kept : q.status = p.status :=
      (congrArg (·.2.status) hexecute).symm.trans (execute_status { p with position := position } operation)
    rw [hadvance]
    cases answer with
    | error cause => exact fail_tells q cause
    | ok flow =>
      have running : (q.follow flow).status = .running := by cases flow <;> exact kept.trans h
      exact reported_tells running operation.action

/-- **Every step tells** whether the performance goes on. -/
theorem step_tells (p : Performance σ) : Tells (p.step script console) := by
  unfold step
  cases hstatus : p.status with
  | finished => exact ⟨by rw [hstatus]; nofun, fun _ => .inl hstatus⟩
  | failed => exact ⟨by rw [hstatus]; nofun, fun _ => .inr hstatus⟩
  | running => exact advance_tells hstatus
  | ready =>
    dsimp only
    cases (console.clear p.console).1 with
    | ok _ => exact advance_tells rfl
    | error cause => exact fail_tells _ _

theorem Call.made_tells (call : Call) (p : Performance σ) : Tells (call.made script console p) :=
  call.induct (P := fun _ outcome => Tells outcome) step_tells (fun _ _ _ _ h => h) p

/-! ## The beginning -/

/-- a console has been asked for more, but not to clear itself -/
def Adds (p q : Performance (σ × List Console.Request)) : Prop :=
  ∃ more, .clear ∉ more ∧ q.console.2 = p.console.2 ++ more

/-- a console has been asked for more, first of all to clear itself, and then not again -/
def Opens (p q : Performance (σ × List Console.Request)) : Prop :=
  ∃ more, .clear ∉ more ∧ q.console.2 = p.console.2 ++ .clear :: more

section Records

variable {p q r : Performance (σ × List Console.Request)}

theorem Adds.same (h : q.console.2 = p.console.2) : Adds p q := ⟨[], List.not_mem_nil, by rw [h, List.append_nil]⟩

theorem Adds.one (request : Console.Request) (hne : request ≠ .clear) (h : q.console.2 = p.console.2 ++ [request]) :
    Adds p q := ⟨[request], fun hmem => hne (List.mem_singleton.1 hmem).symm, h⟩

theorem Adds.trans (hpq : Adds p q) (hqr : Adds q r) : Adds p r := by
  obtain ⟨more, hmore, hq⟩ := hpq
  obtain ⟨others, hothers, hr⟩ := hqr
  exact ⟨more ++ others, fun h => (List.mem_append.1 h).elim hmore hothers, by rw [hr, hq, List.append_assoc]⟩

theorem Opens.trans (hpq : Opens p q) (hqr : Adds q r) : Opens p r := by
  obtain ⟨more, hmore, hq⟩ := hpq
  obtain ⟨others, hothers, hr⟩ := hqr
  refine ⟨more ++ others, fun h => (List.mem_append.1 h).elim hmore hothers, ?_⟩
  rw [hr, hq, List.append_assoc, List.cons_append]

theorem readFrom_adds (channel : Channel) :
    Adds p { p with console := (readFrom console.recorded channel p.console).2 } := by
  cases channel with
  | character => exact .one .readCharacter nofun rfl
  | integer => exact .one .readInteger nofun rfl

/-- an operation asks a console to read or to print, if for anything -/
theorem Effect.adds {operation : Operation} {outcome : Outcome (σ × List Console.Request)}
    (h : Effect script console.recorded p operation outcome) : Adds p outcome.2 := by
  cases h with
  | refused => exact readFrom_adds _
  | received => exact readFrom_adds _
  | unprinted _ _ _ _ _ => exact .one (.print _) nofun rfl
  | printed _ _ _ _ _ => exact .one (.print _) nofun rfl
  | _ => exact .same rfl

theorem execute_adds (operation : Operation) : Adds p (p.execute script console.recorded operation).2 := by
  rcases @execute_effect _ script console.recorded p operation with ⟨-, hidle⟩ | ⟨-, heffect⟩
  · exact .same (by rw [hidle])
  · exact heffect.adds

theorem reported_adds (action : Action) : Adds p (p.reported script console.recorded action).2 := by
  unfold reported
  split
  · have told : ∀ {q : Performance (σ × List Console.Request)},
        q.console = (console.recorded.report (p.reportOf script action) p.console).2 → Adds p q := fun h =>
      .one (.report _) nofun (by rw [h]; rfl)
    rcases hreport : console.recorded.report (p.reportOf script action) p.console with ⟨cause | _, state⟩
    · exact told (by rw [hreport]; rfl)
    · exact told (by rw [hreport])
  · exact .same rfl

theorem advance_adds : Adds p (p.advance script console.recorded).2 := by
  rcases p.advance_cases script console.recorded with
    ⟨position, hended⟩ | ⟨position, operation, answer, q, hexecute, hadvance⟩
  · rw [hended]
    exact .same rfl
  · have executed : Adds p q := by
      have adds : Adds p (execute script console.recorded { p with position := position } operation).2 :=
        execute_adds (p := { p with position := position }) operation
      rwa [hexecute] at adds
    rw [hadvance]
    cases answer with
    | error cause => exact executed
    | ok flow =>
      have followed : Adds p (q.follow flow) := by cases flow <;> exact executed
      exact followed.trans (reported_adds operation.action)

/-- the console is to be cleared if nothing has begun yet, and only then -/
structure Kept (p : Performance (σ × List Console.Request))
    (outcome : Except Fault Bool × Performance (σ × List Console.Request)) : Prop where
  opens : p.status = .ready → Opens p outcome.2
  adds : p.status ≠ .ready → Adds p outcome.2

/-- **The first step asks the console to clear itself**, before anything else, and no other step does. -/
theorem step_kept (p : Performance (σ × List Console.Request)) : Kept p (p.step script console.recorded) := by
  unfold step
  cases hstatus : p.status with
  | finished => exact ⟨fun h => absurd (hstatus.symm.trans h) nofun, fun _ => .same rfl⟩
  | failed => exact ⟨fun h => absurd (hstatus.symm.trans h) nofun, fun _ => .same rfl⟩
  | running => exact ⟨fun h => absurd (hstatus.symm.trans h) nofun, fun _ => advance_adds⟩
  | ready =>
    refine ⟨fun _ => ?_, fun h => absurd hstatus h⟩
    have cleared : ∀ {q : Performance (σ × List Console.Request)},
        q.console = (console.recorded.clear p.console).2 → Opens p q := fun h =>
      ⟨[], List.not_mem_nil, by rw [h]; rfl⟩
    dsimp only
    cases (console.recorded.clear p.console).1 with
    | ok _ => exact (cleared rfl).trans advance_adds
    | error cause => exact cleared rfl

theorem Call.made_kept (call : Call) (p : Performance (σ × List Console.Request)) :
    Kept p (call.made script console.recorded p) := by
  refine call.induct step_kept ?_ p
  intro p q outcome hp hq
  have tells : Tells (p.step script console.recorded) := step_tells p
  have kept : Kept p (p.step script console.recorded) := step_kept p
  rw [hp] at tells kept
  have adds := hq.adds tells.begun
  exact ⟨fun h => (kept.opens h).trans adds, fun h => (kept.adds h).trans adds⟩

theorem making_adds {p : Performance (σ × List Console.Request)} (h : p.status ≠ .ready) (calls : List Call) :
    Adds p (making script console.recorded calls p).2 := by
  induction calls generalizing p with
  | nil => exact .same rfl
  | cons call calls ih => exact ((call.made_kept p).adds h).trans (ih (call.made_tells p).begun)

end Records

/-- whatever is called first has the console cleared, and no later call does -/
theorem requests_cons (state : σ) (call : Call) (calls : List Call) :
    ∃ more, requests script console state (call :: calls) = .clear :: more ∧ .clear ∉ more := by
  let first := (call.made script console.recorded (start script (state, []))).2
  have opens : Opens _ first := (call.made_kept (start script (state, []))).opens rfl
  have adds : Adds first (making script console.recorded calls first).2 := making_adds (call.made_tells _).begun calls
  obtain ⟨more, hmore, h⟩ := opens.trans adds
  exact ⟨more, h, hmore⟩

/-! ## Once -/

theorem Call.made_recorded (call : Call) (p : Performance (σ × List Console.Request)) :
    call.made script console (p.shown Prod.fst) = showing Prod.fst (call.made script console.recorded p) := by
  cases call with
  | step => exact step_shown console.recorded_shows script p
  | run more =>
    simp only [made, run_shown console.recorded_shows script p]
    rfl

/-- keeping a record changes nothing -/
theorem making_recorded (calls : List Call) (p : Performance (σ × List Console.Request)) :
    making script console calls (p.shown Prod.fst) = showing Prod.fst (making script console.recorded calls p) := by
  induction calls generalizing p with
  | nil => rfl
  | cons call calls ih =>
    rw [making, call.made_recorded]
    simp only [showing, ih]
    rfl

variable (script console)

/-- **A performance starts once and ends once.** Whatever the script and the console, let any row of calls be made. The
record that is kept for it changes nothing. If any call is made at all, the console has been asked to clear itself, first
of all and once, so that the first call asked for it. When another call then answers anything but that the performance
goes on, that is the end: it asks for nothing any more, and whatever is called with whatever console answers that the
performance is over, where it came to its end, and leaves everything as it is. -/
theorem performs_once (state : σ) (calls : List Call) :
    let p := making script console calls (start script state)
    p = showing Prod.fst (making script console.recorded calls (start script (state, []))) ∧
      (calls ≠ [] → ∃ more, requests script console state calls = .clear :: more ∧ .clear ∉ more) ∧
      ∀ call : Call, (call.made script console p.2).1 ≠ .ok true →
        let q := (call.made script console p.2).2
        ∀ later, requests script console state (calls ++ call :: later) =
            requests script console state (calls ++ [call]) ∧
          ∀ console' : Console σ,
            making script console' later q = (later.map fun _ => .error ⟨q.position, .halted⟩, q) := by
  intro p
  let fine := making script console.recorded calls (start script (state, []))
  have recorded : p = showing Prod.fst fine := making_recorded calls (start script (state, []))
  refine ⟨recorded, ?_, ?_⟩
  · intro hcalls
    obtain ⟨call, rest, rfl⟩ := List.exists_cons_of_ne_nil hcalls
    exact requests_cons state call rest
  · intro call hanswer q later
    constructor
    · -- the answer is the same with the record, so the performance with the record is over, too
      have answer : (call.made script console p.2).1 = (call.made script console.recorded fine.2).1 := by
        rw [recorded]
        exact congrArg Prod.fst (call.made_recorded fine.2)
      have ended := (call.made_tells fine.2).ends (answer ▸ hanswer)
      unfold requests
      rw [List.append_cons, making_append_snd, making_append_snd calls [call]]
      exact congrArg (·.2.console.2) (making_of_over ended later)
    · intro console'
      exact making_of_over ((call.made_tells p.2).ends hanswer) later

variable {script console} in
/-- a walk whose inputs end before it does -/
theorem performs_once_pacing :
    let script := Rehearsal.pacing.lower
    let calls := [.step, .run 2]
    let p := making script Scripted.console calls (start script (Scripted.ofInputs ["1"] true))
    let q := (Call.made script Scripted.console p.2 (.run 9)).2
    q.position = ⟨1, 2, 0⟩ ∧
      (∃ more, requests script Scripted.console (Scripted.ofInputs ["1"] true) calls = .clear :: more ∧ .clear ∉ more) ∧
      making script Console.plain [.run 3, .step] q =
        ([.error ⟨⟨1, 2, 0⟩, .halted⟩, .error ⟨⟨1, 2, 0⟩, .halted⟩], q) := by
  intro script calls p q
  have hposition : q.position = ⟨1, 2, 0⟩ := by decide
  obtain ⟨-, opens, ends⟩ := performs_once script Scripted.console (Scripted.ofInputs ["1"] true) calls
  refine ⟨hposition, opens nofun, ?_⟩
  have halts := ((ends (.run 9) (by decide)) [.run 3, .step]).2 Console.plain
  rw [← hposition]
  exact halts

end Calls

end Performance

end Playscript
