/-
Nothing is ever looked up out of bounds.

- `Valid`: there is a memory for every character, nobody is on stage twice and nobody but characters of the script, and
  the position stands for something in the script;
- `Safe`: an operation finds whatever it looks up, leaves a performance in order and where it is, and jumps to scenes of
  the script only (`Staged.execute`);
- `Reached`: the performances that any steps and runs lead to, whatever the console does;
- `Valid.step`, `valid_of_reached`: a step keeps a performance valid, so all of these are valid;
- `perform_in_bounds`: hence no step of a script that was compiled reaches for anything that is not there.
-/
import Playscript.Proofs.Performance.Checked
import Playscript.Proofs.Performance.Lockstep
import Playscript.Proofs.Performance.Settling
import Playscript.Proofs.Rehearsal.Lockstep

namespace Playscript

namespace Performance

/-- characters are numbered alike in memory, on stage and in the script, and nobody is on stage twice -/
structure Staged {σ : Type} (script : Script) (p : Performance σ) : Prop where
  memory : p.memory.length = script.characters.length
  steady : p.Steady script
  once : p.stage.Nodup

/-- a performance in order, at a position that stands for something -/
structure Valid {σ : Type} (script : Script) (p : Performance σ) : Prop extends p.Staged script where
  position : script.Denotes p.position

/-- looking finds everything and leads where not looking leads: to a performance in order and still at `place`, and
from there to a scene of the script if there is a jump -/
structure Safe {σ : Type} (script : Script) (place : Position) (looking : Option (Outcome σ)) (outcome : Outcome σ) :
    Prop where
  found : looking = some outcome
  staged : outcome.2.Staged script
  still : outcome.2.position = place
  leads : ∀ act scene, outcome.1 = .ok (.jump act scene) → script.HasScene act scene

section Operations

variable {σ : Type} {script : Script} {p : Performance σ}

/-! ## Values -/

theorem certain_bind {α β : Type} {answer : Except RuntimeError α} {f : α → Lookup β} {g : α → Except RuntimeError β}
    (h : ∀ a, answer = .ok a → f a = certain (g a)) : (certain answer >>= f) = certain (answer >>= g) := by
  cases answer with
  | ok a => exact h a rfl
  | error cause => rfl

theorem nameOf_eq_getElem {c : Nat} (hc : c < script.characters.length) :
    script.characters[c]? = some (script.nameOf c) := by
  rw [Script.nameOf, List.getD_eq_getElem?_getD, List.getElem?_eq_getElem hc, Option.getD_some]

theorem naming?_eq {α : Type} (error : Ident → RuntimeError) {c : Nat} (hc : c < script.characters.length) :
    (naming? script error c : Lookup α) = certain (.error (error (script.nameOf c))) := by
  rw [naming?, nameOf_eq_getElem hc]
  rfl

variable (h : p.Staged script)
include h

theorem memoryAt_eq_getElem {c : Nat} (hc : c < script.characters.length) : p.memory[c]? = some (p.memoryAt c) := by
  have hc : c < p.memory.length := h.memory ▸ hc
  rw [memoryAt, List.getD_eq_getElem?_getD, List.getElem?_eq_getElem hc, Option.getD_some]

theorem valueAt?_eq {c : Nat} (hc : c < script.characters.length) :
    p.valueAt? script c = certain (p.valueAt script c) := by
  unfold valueAt? valueAt
  rw [memoryAt_eq_getElem h hc]
  have looked : ∀ proceed : Memory → Lookup Int64, (ExceptT.lift (some (p.memoryAt c)) >>= proceed) =
      proceed (p.memoryAt c) := fun _ => rfl
  rw [looked]
  cases (p.memoryAt c).value with
  | some n => rfl
  | none => exact naming?_eq .unsetValue hc

omit h in
theorem addressee?_eq {speaker : Nat} (hs : speaker < script.characters.length) :
    p.addressee? script speaker = certain (p.addressee script speaker) := by
  unfold addressee? addressee
  rcases p.stage.filter (· != speaker) with _ | ⟨other, _ | ⟨next, rest⟩⟩
  · exact naming?_eq .noAddressee hs
  · rfl
  · exact naming?_eq _ hs

/-- **Values find what they look up.** -/
theorem evaluate?_eq {speaker : Nat} (hs : speaker < script.characters.length) {operand : Operand}
    (ho : operand.Within script.characters.length) :
    p.evaluate? script speaker operand = certain (p.evaluate script speaker operand) := by
  induction operand with
  | constant n => rfl
  | binary op lhs rhs ihl ihr =>
    rw [evaluate?, ihl ho.1, ihr ho.2]
    exact certain_bind fun a _ => certain_bind fun b _ => rfl
  | unary op operand ih =>
    rw [evaluate?, ih ho]
    exact certain_bind fun n _ => rfl
  | character i => exact valueAt?_eq h ho
  | role role =>
    cases role with
    | speaker => exact valueAt?_eq h hs
    | addressee =>
      rw [evaluate?, addressee?_eq hs]
      exact certain_bind fun other hother => valueAt?_eq h (h.steady other (mem_stage_of_addressee hother))

/-! ## Outcomes -/

theorem Staged.next : Safe script p.position (some (.ok .next, p)) (.ok .next, p) := ⟨rfl, h, rfl, nofun⟩

theorem Staged.stop (error : Ident → RuntimeError) {c : Nat} (hc : c < script.characters.length) :
    Safe script p.position (p.stop? script error c) (.error (error (script.nameOf c)), p) := by
  refine ⟨?_, h, rfl, nofun⟩
  rw [stop?, nameOf_eq_getElem hc]
  rfl

theorem Staged.given {α : Type} {looking : Lookup α} {answer : Except RuntimeError α} (hanswer : looking = certain answer)
    {proceed? : α → Option (Outcome σ)} {proceed : α → Outcome σ}
    (hproceed : ∀ a, answer = .ok a → Safe script p.position (proceed? a) (proceed a)) :
    Safe script p.position (p.given? looking proceed?) (p.given answer proceed) := by
  subst hanswer
  cases answer with
  | ok a => exact hproceed a rfl
  | error cause => exact ⟨rfl, h, rfl, nofun⟩

theorem Staged.setMemory (c : Nat) (memory : Memory) : (p.setMemory c memory).Staged script where
  memory := List.length_set.trans h.memory
  steady := h.steady
  once := h.once

theorem Staged.change {c : Nat} (hc : c < script.characters.length) (f : Memory → Memory) :
    Safe script p.position (p.change? c f) (.ok .next, p.setMemory c (f (p.memoryAt c))) := by
  refine ⟨?_, h.setMemory c _, rfl, nofun⟩
  rw [change?, memoryAt_eq_getElem h hc]
  rfl

/-! ## Directions -/

theorem Staged.enter {characters : List Nat} (hcs : ∀ c ∈ characters, c < script.characters.length) :
    Safe script p.position (p.enter? script characters) (p.enter script characters) := by
  induction characters generalizing p with
  | nil => exact h.next
  | cons c rest ih =>
    have hc := hcs c List.mem_cons_self
    rw [enter?, Performance.enter]
    by_cases hstage : c ∈ p.stage
    · rw [if_pos hstage, if_pos hstage]
      exact h.stop .alreadyOnStage hc
    · rw [if_neg hstage, if_neg hstage]
      have entered : Staged script { p with stage := p.stage ++ [c] } := by
        refine ⟨h.memory, fun other ho => ?_, ?_⟩
        · rcases List.mem_append.1 ho with ho | ho
          · exact h.steady other ho
          · exact List.mem_singleton.1 ho ▸ hc
        · show (p.stage ++ [c]).Nodup
          rw [← List.concat_eq_append, List.nodup_concat]
          exact ⟨hstage, h.once⟩
      exact ih entered fun c hc => hcs c (List.mem_cons_of_mem _ hc)

theorem Staged.leave {characters : List Nat} (hcs : ∀ c ∈ characters, c < script.characters.length) :
    Safe script p.position (p.leave? script characters) (p.leave script characters) := by
  induction characters generalizing p with
  | nil => exact h.next
  | cons c rest ih =>
    rw [leave?, Performance.leave]
    by_cases hstage : c ∈ p.stage
    · rw [if_pos hstage, if_pos hstage]
      have left : Staged script { p with stage := p.stage.erase c } :=
        ⟨h.memory, fun other ho => h.steady other (List.mem_of_mem_erase ho), h.once.erase c⟩
      exact ih left fun c hc => hcs c (List.mem_cons_of_mem _ hc)
    · rw [if_neg hstage, if_neg hstage]
      exact h.stop .notOnStage (hcs c List.mem_cons_self)

theorem Staged.direct {action : Action} (ha : action.Within script) :
    Safe script p.position (p.direct? script action) (p.direct script action) := by
  cases action with
  | enter characters => exact h.enter ha
  | exit c => exact h.leave (List.forall_mem_singleton.2 ha)
  | exeunt characters =>
    cases characters with
    | nil => exact ⟨rfl, ⟨h.memory, nofun, List.nodup_nil⟩, rfl, nofun⟩
    | cons c rest => exact h.leave ha
  | _ => exact h.next

/-! ## What is spoken -/

theorem Staged.popStack {c : Nat} (hc : c < script.characters.length) :
    Safe script p.position (p.popStack? script c) (p.popStack script c) := by
  unfold popStack? Performance.popStack
  rw [memoryAt_eq_getElem h hc]
  dsimp only [bind, Option.bind]
  cases (p.memoryAt c).stack with
  | nil => exact h.stop .emptyStack hc
  | cons top rest => exact h.change hc fun _ => ⟨some top, rest⟩

variable (console : Console σ)

/-- **What is spoken finds what it looks up.** -/
theorem Staged.act {speaker : Nat} (hs : speaker < script.characters.length) {action : Action}
    (ha : action.Within script) :
    Safe script p.position (p.act? script console speaker action) (p.act script console speaker action) := by
  have addressee := addressee?_eq (p := p) hs
  have within := fun other (ho : p.addressee script speaker = .ok other) => h.steady other (mem_stage_of_addressee ho)
  have direct := h.direct ha
  cases action with
  | enter characters => exact direct
  | exit c => exact direct
  | exeunt characters => exact direct
  | assign value =>
    refine h.given (evaluate?_eq h hs ha) fun n _ => h.given addressee fun other ho => ?_
    exact h.change (within other ho) fun memory => { memory with value := some n }
  | compare relation negated lhs rhs =>
    refine h.given (evaluate?_eq h hs ha.1) fun a _ => h.given (evaluate?_eq h hs ha.2) fun b _ => ?_
    exact ⟨rfl, ⟨h.memory, h.steady, h.once⟩, rfl, nofun⟩
  | jump act scene =>
    refine ⟨rfl, h, rfl, fun act' scene' he => ?_⟩
    cases he
    exact ha
  | input channel =>
    refine h.given addressee fun other ho => ?_
    have after : Staged script { p with console := (readFrom console channel p.console).2 } :=
      ⟨h.memory, h.steady, h.once⟩
    refine after.given rfl fun input _ => after.given rfl fun n _ => ?_
    exact after.change (within other ho) fun memory => { memory with value := some n }
  | output channel =>
    refine h.given addressee fun other ho => h.given (valueAt?_eq h (within other ho)) fun n _ => ?_
    refine h.given rfl fun text _ => ?_
    have after : Staged script { p with console := (console.print text p.console).2 } := ⟨h.memory, h.steady, h.once⟩
    exact after.given rfl fun _ _ => after.next
  | remember value =>
    refine h.given (evaluate?_eq h hs ha) fun n _ => h.given addressee fun other ho => ?_
    exact h.change (within other ho) fun memory => { memory with stack := n :: memory.stack }
  | «recall» => exact h.given addressee fun other ho => h.popStack (within other ho)

theorem Staged.unguarded {operation : Operation} (ho : operation.Within script) :
    Safe script p.position (p.unguarded? script console operation) (p.unguarded script console operation) := by
  obtain ⟨speaker, guard, action⟩ := operation
  cases speaker with
  | none => exact h.direct ho.action
  | some speaker =>
    have hs := ho.speaker speaker rfl
    unfold unguarded? Performance.unguarded
    dsimp only
    by_cases hstage : speaker ∈ p.stage
    · rw [if_pos hstage, if_pos hstage]
      exact h.act console hs ho.action
    · rw [if_neg hstage, if_neg hstage]
      exact h.stop .notOnStage hs

/-- **An operation finds what it looks up**, and leaves a performance in order where it is. -/
theorem Staged.execute {operation : Operation} (ho : operation.Within script) :
    Safe script p.position (p.execute? script console operation) (p.execute script console operation) := by
  unfold execute? Performance.execute
  cases operation.guard with
  | none => exact h.unguarded console ho
  | some polarity =>
    dsimp only
    cases p.flag with
    | none => exact ⟨rfl, h, rfl, nofun⟩
    | some flag =>
      dsimp only
      by_cases hflag : flag = polarity
      · rw [if_pos hflag, if_pos hflag]
        exact h.unguarded console ho
      · rw [if_neg hflag, if_neg hflag]
        exact h.next

/-! ## Reports -/

/-- a report finds whoever is on stage -/
theorem reportOf?_eq (action : Action) : p.reportOf? script action = some (p.reportOf script action) := by
  have names : ∀ stage : List Nat, (∀ c ∈ stage, c < script.characters.length) →
      stage.mapM (fun c => script.characters[c]?) = some (stage.map script.nameOf) := by
    intro stage hstage
    induction stage with
    | nil => rfl
    | cons c rest ih =>
      rw [List.mapM_cons, nameOf_eq_getElem (hstage c List.mem_cons_self),
        ih fun c hc => hstage c (List.mem_cons_of_mem _ hc)]
      rfl
  rw [reportOf?, names p.stage h.steady, reportOf]
  simp only [Option.bind_eq_bind, Option.bind_some, List.map_map, Function.comp_def]
  rfl

end Operations

/-! ## Steps -/

section Steps

variable {σ : Type} {script : Script} {p : Performance σ} (console : Console σ)

/-- looking finds everything, and leads to a valid performance -/
structure SafeStep (script : Script) (looking : Option (Except Fault Bool × Performance σ))
    (outcome : Except Fault Bool × Performance σ) : Prop where
  found : looking = some outcome
  valid : outcome.2.Valid script

theorem Valid.fail (h : p.Valid script) (error : RuntimeError) : SafeStep script (some (p.fail error)) (p.fail error) :=
  ⟨rfl, ⟨⟨h.memory, h.steady, h.once⟩, h.position⟩⟩

theorem Valid.reported (h : p.Valid script) (action : Action) :
    SafeStep script (p.reported? script console action) (p.reported script console action) := by
  unfold reported? Performance.reported
  rw [reportOf?_eq h.toStaged]
  split
  · have told : Valid script { p with console := (console.report (p.reportOf script action) p.console).2 } :=
      ⟨⟨h.memory, h.steady, h.once⟩, h.position⟩
    dsimp only [Option.bind_eq_bind, Option.bind_some]
    cases (console.report (p.reportOf script action) p.console).1 with
    | ok _ => exact ⟨rfl, told⟩
    | error cause => exact told.fail _
  · exact ⟨rfl, h⟩

/-- after an operation of a scene the next position is in the same scene or at its end, and after a jump in a scene -/
theorem Staged.follow (h : p.Staged script) {span : Span}
    (hspan : script.spanAt? p.position.act p.position.scene = some span) (hline : p.position.line < span.length)
    {flow : Flow} (hleads : ∀ act scene, flow = .jump act scene → script.HasScene act scene) :
    (p.follow flow).Valid script := by
  cases flow with
  | next => exact ⟨⟨h.memory, h.steady, h.once⟩, Script.denotes_of_le hspan hline⟩
  | jump act scene =>
    obtain ⟨span, hspan⟩ := (hleads act scene rfl).spanAt?
    exact ⟨⟨h.memory, h.steady, h.once⟩, Script.denotes_of_le hspan (Nat.zero_le _)⟩

variable (formed : script.WellFormed)
include formed

theorem Valid.advance (h : p.Valid script) :
    SafeStep script (p.advance? script console) (p.advance script console) := by
  unfold advance? Performance.advance
  rcases script.settle_cases p.position with hsettle | ⟨settled, span, hsettle, hspan, hline, -⟩
  · rw [hsettle]
    exact ⟨rfl, ⟨⟨h.memory, h.steady, h.once⟩, .ended⟩⟩
  · obtain ⟨operation, hmem, hget, -⟩ := formed.operationAt? hspan hline
    rw [hsettle]
    dsimp only
    rw [Option.bind_some, hget]
    have moved : Staged script { p with position := settled } := ⟨h.memory, h.steady, h.once⟩
    obtain ⟨found, staged, still, leads⟩ := moved.execute console (formed.operations operation hmem)
    rw [Option.bind_eq_bind, Option.bind_some, found]
    dsimp only
    rcases hexecute : Performance.execute script console { p with position := settled } operation with ⟨answer, q⟩
    rw [hexecute] at staged still leads
    dsimp only at staged still leads
    rw [← still] at hspan hline
    cases answer with
    | error cause => exact Valid.fail ⟨staged, .operation hspan hline⟩ cause
    | ok flow => exact (staged.follow hspan hline fun act scene he => leads act scene (he ▸ rfl)).reported console _

/-- **A step finds whatever it looks up**, and leads to a valid performance again. -/
theorem Valid.step (h : p.Valid script) : SafeStep script (p.step? script console) (p.step script console) := by
  unfold step? Performance.step
  cases p.status with
  | finished => exact ⟨rfl, h⟩
  | failed => exact ⟨rfl, h⟩
  | running => exact h.advance console formed
  | ready =>
    have cleared : Valid script { p with status := .running, console := (console.clear p.console).2 } :=
      ⟨⟨h.memory, h.steady, h.once⟩, h.position⟩
    dsimp only
    cases (console.clear p.console).1 with
    | ok _ => exact cleared.advance console formed
    | error cause => exact cleared.fail _

end Steps

theorem valid_start {σ : Type} (script : Script) (state : σ) : (start script state).Valid script where
  memory := List.length_map _
  steady := nofun
  once := List.nodup_nil
  position := Script.denotes_start script

/-- the performances that steps and runs lead to; between two of them the console may have become any other -/
inductive Reached {σ : Type} (script : Script) (console : Console σ) : Performance σ → Prop
  | start (state : σ) : Reached script console (start script state)
  | stepped {p : Performance σ} : Reached script console p → Reached script console (p.step script console).2
  | ran {p : Performance σ} (limit : Nat) :
    Reached script console p → Reached script console (p.run script console limit).2
  | supplied {p : Performance σ} (state : σ) : Reached script console p → Reached script console { p with console := state }

/-- what holds at the start and is kept by single steps, whatever becomes of the console, holds wherever steps and runs
lead -/
theorem holds_of_reached {σ : Type} {script : Script} {console : Console σ} {P : Performance σ → Prop}
    (hstart : ∀ state, P (start script state)) (hstep : ∀ p, P p → P (p.step script console).2)
    (hsupplied : ∀ p state, P p → P { p with console := state }) {p : Performance σ} (h : p.Reached script console) :
    P p := by
  have hrun : ∀ limit p, P p → P (p.run script console limit).2 := by
    intro limit
    induction limit with
    | zero => exact fun p hp => hp
    | succ limit ih =>
      intro p hp
      have next := hstep p hp
      unfold run
      rcases hq : p.step script console with ⟨(fault | ⟨_ | _⟩), q⟩ <;> rw [hq] at next
      · exact next
      · exact next
      · exact ih q next
  induction h with
  | start state => exact hstart state
  | stepped _ ih => exact hstep _ ih
  | ran limit _ ih => exact hrun limit _ ih
  | supplied state _ ih => exact hsupplied _ state ih

/-- **Every performance that can come about is valid.** -/
theorem valid_of_reached {σ : Type} {script : Script} (formed : script.WellFormed) {console : Console σ}
    {p : Performance σ} (h : p.Reached script console) : p.Valid script :=
  holds_of_reached (valid_start script) (fun _ hp => (hp.step console formed).valid)
    (fun _ _ hp => ⟨⟨hp.memory, hp.steady, hp.once⟩, hp.position⟩) h

/-- **No performance reaches for what is not there.** Let a program have a script. All numbers in its operations are
those of characters and of scenes, and the spans of its scenes tile the operations. Whatever steps and runs lead to,
with any console and any input and also after a fault: there is a memory for every character, the stage holds
characters without repetition, the position stands for something, and a step that looks up every memory, identifier and
operation before it takes it finds them all and does what the step does that does not look. -/
theorem perform_in_bounds {program : Program} {script : Script} (hcompile : program.compile = .ok script) :
    script.WellFormed ∧ ∀ {σ : Type} (console : Console σ) (p : Performance σ), p.Reached script console →
      p.Valid script ∧ p.step? script console = some (p.step script console) := by
  obtain ⟨hdefects, rfl⟩ := Program.compile_eq_ok_iff.1 hcompile
  have formed := ((Program.defects_eq_nil_iff program).1 hdefects).lower_wellFormed
  refine ⟨formed, fun console p hp => ?_⟩
  have valid := valid_of_reached formed hp
  exact ⟨valid, (valid.step console formed).found⟩

/-- also when the inputs have run out, which stops the walk in the middle of a scene -/
theorem perform_in_bounds_pacing : ∃ script, Rehearsal.pacing.compile = .ok script ∧ script.WellFormed ∧
    let p := ((start script (Scripted.ofInputs [] true)).run script Scripted.console 9).2
    p.position = ⟨1, 2, 0⟩ ∧ p.status = .failed ∧ p.Valid script ∧
      p.step? script Scripted.console = some (p.step script Scripted.console) := by
  have hcompile : Rehearsal.pacing.compile = .ok Rehearsal.pacing.lower := rfl
  obtain ⟨formed, safe⟩ := perform_in_bounds hcompile
  refine ⟨Rehearsal.pacing.lower, hcompile, formed, by decide, by decide, ?_⟩
  exact safe Scripted.console _ (.ran 9 (.start (Scripted.ofInputs [] true)))

/-- a script that sends off a character whom it does not have is not well-formed, and looking notices -/
example : (start ⟨[], [⟨none, none, .exit 3⟩], [[⟨0, 1⟩]]⟩ (Scripted.ofInputs [] false)).step?
    ⟨[], [⟨none, none, .exit 3⟩], [[⟨0, 1⟩]]⟩ Scripted.console = none := by decide

end Performance

end Playscript
