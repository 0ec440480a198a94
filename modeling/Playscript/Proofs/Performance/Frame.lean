/-
What a step can change when inputs and output are on paper.

- `AloneWith`: who can be meant by what is spoken;
- `Rewritten`: the ways to change what one character holds;
- `Framed`: what carrying out one operation can change, and by which actions (`framed_of_effect`);
- `step_framed`: a step stays in that frame, and a step that faults has written nothing down;
- `Onward`, `run_onward`: so values and the flag stay set, output only grows and inputs are only used up, however far a
  performance goes.
-/
import Playscript.Proofs.Performance.Effects
import Playscript.Proofs.Performance.Flag

namespace Playscript

namespace Performance

/-! ## Frames -/

section Frames

variable {script : Script} {p q r : Performance Scripted} {operation : Operation} {carried : Option Operation}

/-- an operation is spoken by somebody on stage, where `c` is the only one beside the speaker -/
def AloneWith {σ : Type} (p : Performance σ) (operation : Operation) (c : Nat) : Prop :=
  ∃ speaker ∈ p.stage, operation.speaker = some speaker ∧ p.stage.filter (· != speaker) = [c]

theorem Addresses.aloneWith {σ : Type} {p : Performance σ} {speaker c : Nat}
    (h : Addresses script p operation speaker c) : p.AloneWith operation c :=
  ⟨speaker, h.present, h.speaks, h.only⟩

/-- how an action changes what a character holds: the value, the stack by one more on top, or both by its top -/
inductive Rewritten : Action → Memory → Memory → Prop
  | assigned {value : Operand} {old : Option Int64} {stack : List Int64} (n : Int64) :
    Rewritten (.assign value) ⟨old, stack⟩ ⟨some n, stack⟩
  | received {channel : Channel} {old : Option Int64} {stack : List Int64} (n : Int64) :
    Rewritten (.input channel) ⟨old, stack⟩ ⟨some n, stack⟩
  | pushed {value : Operand} {old : Option Int64} {stack : List Int64} (n : Int64) :
    Rewritten (.remember value) ⟨old, stack⟩ ⟨old, n :: stack⟩
  | popped {old : Option Int64} {top : Int64} {rest : List Int64} :
    Rewritten .recall ⟨old, top :: rest⟩ ⟨some top, rest⟩

theorem Rewritten.value_isSome {action : Action} {before after : Memory} (h : Rewritten action before after)
    (hset : before.value.isSome = true) : after.value.isSome = true := by
  cases h with
  | pushed => exact hset
  | _ => rfl

/-- what carrying out `carried`, if that is anything, can change -/
structure Framed (p : Performance Scripted) (carried : Option Operation) (q : Performance Scripted) : Prop where
  cells : q.memory.length = p.memory.length
  memory : ∀ c, q.memoryAt c ≠ p.memoryAt c → ∃ operation ∈ carried,
    p.AloneWith operation c ∧ Rewritten operation.action (p.memoryAt c) (q.memoryAt c)
  flag : q.flag ≠ p.flag → q.flag.isSome = true ∧ ∃ operation ∈ carried, operation.action.isComparison = true
  stage : q.stage ≠ p.stage → ∃ operation ∈ carried, operation.action.isDirection = true
  /-- what was printed last comes first -/
  printed : q.console.printed = p.console.printed ∨ ∃ operation ∈ carried, ∃ channel c n text,
    operation.action = .output channel ∧ p.AloneWith operation c ∧ (p.memoryAt c).value = some n ∧
      written channel n = .ok text ∧ q.console.printed = text :: p.console.printed
  inputs : q.console.inputs = p.console.inputs ∨ ∃ operation ∈ carried, ∃ channel c input,
    operation.action = .input channel ∧ p.AloneWith operation c ∧ p.console.inputs = input :: q.console.inputs

/-- two performances agree on all that a frame is about -/
structure Untouched (p q : Performance Scripted) : Prop where
  memory : q.memory = p.memory
  flag : q.flag = p.flag
  stage : q.stage = p.stage
  printed : q.console.printed = p.console.printed
  inputs : q.console.inputs = p.console.inputs

theorem Untouched.framed (h : Untouched p q) : Framed p carried q where
  cells := congrArg List.length h.memory
  memory := fun c hc => absurd (by rw [memoryAt, memoryAt, h.memory]) hc
  flag := fun hf => absurd h.flag hf
  stage := fun hs => absurd h.stage hs
  printed := .inl h.printed
  inputs := .inl h.inputs

theorem Framed.of_untouched {p' q' : Performance Scripted} (h : Framed p carried q) (hp : Untouched p' p)
    (hq : Untouched q q') : Framed p' carried q' := by
  obtain ⟨pm, pf, ps, pp, pi⟩ := hp
  obtain ⟨qm, qf, qs, qp, qi⟩ := hq
  obtain ⟨cells, memory, flag, stage, printed, inputs⟩ := h
  simp only [memoryAt, AloneWith, pm, pf, ps, pp, pi] at cells memory flag stage printed inputs
  simp only [← qm, ← qf, ← qs, ← qp, ← qi] at cells memory flag stage printed inputs
  exact ⟨cells, memory, flag, stage, printed, inputs⟩

/-! ## Operations -/

theorem memoryAt_setMemory {σ : Type} (p : Performance σ) (c other : Nat) (memory : Memory) :
    (p.setMemory c memory).memoryAt other = p.memoryAt other ∨
      (other = c ∧ (p.setMemory c memory).memoryAt other = memory) := by
  simp only [memoryAt, setMemory, List.getD_eq_getElem?_getD, List.getElem?_set]
  split
  · rename_i heq
    split
    · exact .inr ⟨heq.symm, rfl⟩
    · rename_i hlt
      rw [List.getElem?_eq_none (heq ▸ Nat.le_of_not_lt hlt)]
      exact .inl rfl
  · exact .inl rfl

/-- the one character who is spoken to gets another memory -/
theorem framed_setMemory {c : Nat} {memory : Memory} (alone : p.AloneWith operation c)
    (hrewritten : Rewritten operation.action (p.memoryAt c) memory) :
    Framed p (some operation) (p.setMemory c memory) where
  cells := List.length_set
  memory := by
    intro other hchanged
    rcases p.memoryAt_setMemory c other memory with hsame | ⟨rfl, hset⟩
    · exact absurd hsame hchanged
    · exact ⟨operation, rfl, alone, by rwa [hset]⟩
  flag := fun h => absurd rfl h
  stage := fun h => absurd rfl h
  printed := .inl rfl
  inputs := .inl rfl

/-- reading takes the first of the inputs, or fails -/
theorem readFrom_cases (channel : Channel) (state : Scripted) :
    (∃ cause, readFrom Scripted.console channel state = (.error cause, state)) ∨
      ∃ input inputs, state.inputs = input :: inputs ∧
        readFrom Scripted.console channel state = (.ok input, { state with inputs := inputs }) := by
  obtain ⟨inputs, printed, debug, reports, clears⟩ := state
  cases inputs with
  | nil => cases channel <;> exact .inl ⟨.noInput, rfl⟩
  | cons input inputs => cases channel <;> exact .inr ⟨input, inputs, rfl, rfl⟩

/-- reading changes the inputs only, if there is somebody to hear what is read -/
theorem framed_readFrom {channel : Channel} {c : Nat} (alone : p.AloneWith operation c)
    (haction : operation.action = .input channel) :
    Framed p (some operation) { p with console := (readFrom Scripted.console channel p.console).2 } := by
  rcases readFrom_cases channel p.console with ⟨cause, hread⟩ | ⟨input, inputs, hinputs, hread⟩
  · rw [hread]
    exact Untouched.framed ⟨rfl, rfl, rfl, rfl, rfl⟩
  · rw [hread]
    refine ⟨rfl, fun c hc => absurd rfl hc, fun h => absurd rfl h, fun h => absurd rfl h, .inl rfl, .inr ?_⟩
    exact ⟨operation, rfl, channel, c, input, haction, alone, hinputs⟩

theorem value_of_valueAt {σ : Type} {p : Performance σ} {c : Nat} {n : Int64} (h : p.valueAt script c = .ok n) :
    (p.memoryAt c).value = some n := by
  unfold valueAt at h
  split at h
  · cases h
    assumption
  · cases h

/-- **An operation stays in its frame.** -/
theorem framed_of_effect {outcome : Outcome Scripted} (h : Effect script Scripted.console p operation outcome) :
    Framed p (some operation) outcome.2 := by
  cases h with
  | stopped => exact Untouched.framed ⟨rfl, rfl, rfl, rfl, rfl⟩
  | unspoken => exact Untouched.framed ⟨rfl, rfl, rfl, rfl, rfl⟩
  | jumped => exact Untouched.framed ⟨rfl, rfl, rfl, rfl, rfl⟩
  | moved hmoves =>
    exact ⟨rfl, fun c hc => absurd rfl hc, fun h => absurd rfl h, fun _ => ⟨operation, rfl, hmoves.isDirection⟩, .inl rfl,
      .inl rfl⟩
  | assigned addresses haction =>
    exact framed_setMemory addresses.aloneWith (haction ▸ .assigned _)
  | compared _ _ haction =>
    have comparison : operation.action.isComparison = true := by rw [haction]; rfl
    exact ⟨rfl, fun c hc => absurd rfl hc, fun _ => ⟨rfl, operation, rfl, comparison⟩, fun h => absurd rfl h, .inl rfl,
      .inl rfl⟩
  | refused cause addresses haction => exact framed_readFrom addresses.aloneWith haction
  | @received speaker other channel input n addresses haction hread =>
    have read := framed_readFrom addresses.aloneWith haction
    have set : Framed p (some operation) (p.setValue other n) :=
      framed_setMemory addresses.aloneWith (haction ▸ .received n)
    exact ⟨set.cells, set.memory, set.flag, set.stage, read.printed, read.inputs⟩
  | unprinted addresses haction hvalue hwritten hprint => cases hprint
  | printed addresses haction hvalue hwritten =>
    refine ⟨rfl, fun c hc => absurd rfl hc, fun h => absurd rfl h, fun h => absurd rfl h, .inr ?_, .inl rfl⟩
    exact ⟨operation, rfl, _, _, _, _, haction, addresses.aloneWith, value_of_valueAt hvalue, hwritten, rfl⟩
  | pushed addresses haction => exact framed_setMemory addresses.aloneWith (haction ▸ .pushed _)
  | popped addresses haction hstack =>
    refine framed_setMemory addresses.aloneWith ?_
    have memory : p.memoryAt _ = ⟨(p.memoryAt _).value, _⟩ := congrArg (Memory.mk _) hstack
    rw [haction, memory]
    exact .popped

/-- an operation that fails has changed neither memory nor the flag, and has printed nothing -/
theorem kept_of_effect {cause : RuntimeError} (h : Effect script Scripted.console p operation (.error cause, q)) :
    q.memory = p.memory ∧ q.flag = p.flag ∧ q.console.printed = p.console.printed := by
  generalize houtcome : (Except.error cause, q) = outcome at h
  cases h with
  | stopped => cases houtcome; exact ⟨rfl, rfl, rfl⟩
  | moved => cases houtcome; exact ⟨rfl, rfl, rfl⟩
  | @refused _ _ channel _ _ haction =>
    cases houtcome
    rcases readFrom_cases channel p.console with ⟨cause, hread⟩ | ⟨input, inputs, hinputs, hread⟩ <;> rw [hread] <;>
      exact ⟨rfl, rfl, rfl⟩
  | unprinted _ _ _ _ hprint => cases hprint
  | _ => cases houtcome

end Frames

/-! ## Steps -/

section Steps

variable (script : Script) (p : Performance Scripted)

/-- scripted inputs can be cleared, which leaves inputs and output as they are -/
theorem clear_scripted {state cleared : Scripted} {answer : Except ConsoleError Unit}
    (h : Scripted.console.clear state = (answer, cleared)) :
    answer = .ok () ∧ cleared.printed = state.printed ∧ cleared.inputs = state.inputs := by
  cases h
  exact ⟨rfl, rfl, rfl⟩

variable {p} in
theorem Begins.untouched {q : Performance Scripted} (h : p.Begins Scripted.console q) : Untouched p q := by
  rcases h.console with hconsole | ⟨-, hclear⟩
  · exact ⟨h.memory, h.flag, h.stage, by rw [hconsole], by rw [hconsole]⟩
  · obtain ⟨-, printed, inputs⟩ := clear_scripted hclear
    exact ⟨h.memory, h.flag, h.stage, printed, inputs⟩

/-- reports say what happened, and change nothing that a frame is about -/
theorem reported_scripted (action : Action) :
    ∃ q, p.reported script Scripted.console action = (.ok true, q) ∧ Untouched p q := by
  unfold reported
  split
  · exact ⟨_, rfl, rfl, rfl, rfl, rfl, rfl⟩
  · exact ⟨_, rfl, rfl, rfl, rfl, rfl, rfl⟩

/-- following the flow changes the position only -/
theorem follow_untouched (flow : Flow) : Untouched p (p.follow flow) := by
  cases flow <;> exact ⟨rfl, rfl, rfl, rfl, rfl⟩

/-- **An operation that is run stays in the frame** of the operation that is carried out. -/
theorem framed_execute {operation : Operation} {q r : Performance Scripted} {answer : Except RuntimeError Flow}
    (hnext : p.next? script Scripted.console = some (q, operation))
    (hexecute : q.execute script Scripted.console operation = (answer, r)) :
    Framed p (p.carried? script Scripted.console) r ∧
      ∀ cause, answer = .error cause →
        r.memory = p.memory ∧ r.flag = p.flag ∧ r.console.printed = p.console.printed := by
  have begins := (begins_of_next? hnext).1.untouched
  have carried : p.carried? script Scripted.console = if operation.allowed q.flag then some operation else none := by
    rw [carried?, hnext]
  rcases @execute_effect _ script Scripted.console q operation with ⟨-, hidle⟩ | ⟨hallowed, heffect⟩
  · rw [hexecute] at hidle
    cases hidle
    exact ⟨begins.framed, fun _ _ => ⟨begins.memory, begins.flag, begins.printed⟩⟩
  · rw [hexecute] at heffect
    rw [carried, if_pos hallowed]
    refine ⟨(framed_of_effect heffect).of_untouched begins ⟨rfl, rfl, rfl, rfl, rfl⟩, fun cause hcause => ?_⟩
    obtain ⟨memory, flag, printed⟩ := kept_of_effect (hcause ▸ heffect)
    exact ⟨memory.trans begins.memory, flag.trans begins.flag, printed.trans begins.printed⟩

theorem step_framed_kept :
    Framed p (p.carried? script Scripted.console) (p.step script Scripted.console).2 ∧
      ∀ fault, (p.step script Scripted.console).1 = .error fault →
        (p.step script Scripted.console).2.memory = p.memory ∧ (p.step script Scripted.console).2.flag = p.flag ∧
          (p.step script Scripted.console).2.console.printed = p.console.printed := by
  generalize houtcome : p.step script Scripted.console = outcome
  have stepped := houtcome ▸ p.step_stepped script Scripted.console
  cases stepped with
  | stuck => exact ⟨Untouched.framed ⟨rfl, rfl, rfl, rfl, rfl⟩, fun _ _ => ⟨rfl, rfl, rfl⟩⟩
  | uncleared _ hclear => cases hclear
  | ended hbegun =>
    have begins := (begins_of_begun? hbegun).1.untouched
    exact ⟨Untouched.framed ⟨begins.memory, begins.flag, begins.stage, begins.printed, begins.inputs⟩, nofun⟩
  | faulted hnext hexecute =>
    obtain ⟨framed, kept⟩ := framed_execute script p hnext hexecute
    exact ⟨framed.of_untouched ⟨rfl, rfl, rfl, rfl, rfl⟩ ⟨rfl, rfl, rfl, rfl, rfl⟩, fun _ _ => kept _ rfl⟩
  | @performed _ r operation flow hnext hexecute =>
    obtain ⟨q, hreported, untouched⟩ := reported_scripted script (r.follow flow) operation.action
    rw [hreported]
    have framed := (framed_execute script p hnext hexecute).1
    have followed := framed.of_untouched ⟨rfl, rfl, rfl, rfl, rfl⟩ (r.follow_untouched flow)
    exact ⟨followed.of_untouched ⟨rfl, rfl, rfl, rfl, rfl⟩ untouched, nofun⟩

end Steps

section Frames

variable {p q r : Performance Scripted} {carried : Option Operation}

/-- at most one character's memory changes -/
theorem Framed.one (h : Framed p carried q) {c c' : Nat} (hc : q.memoryAt c ≠ p.memoryAt c)
    (hc' : q.memoryAt c' ≠ p.memoryAt c') : c = c' := by
  obtain ⟨operation, hcarried, ⟨speaker, -, hspeaker, alone⟩, -⟩ := h.memory c hc
  obtain ⟨_, hcarried', ⟨speaker', -, hspeaker', alone'⟩, -⟩ := h.memory c' hc'
  cases hcarried.symm.trans hcarried'
  cases hspeaker.symm.trans hspeaker'
  exact List.singleton_inj.1 (alone.symm.trans alone')

theorem Framed.value_isSome (h : Framed p carried q) {c : Nat} (hset : (p.memoryAt c).value.isSome = true) :
    (q.memoryAt c).value.isSome = true := by
  by_cases hc : q.memoryAt c = p.memoryAt c
  · rwa [hc]
  · obtain ⟨_, -, -, rewritten⟩ := h.memory c hc
    exact rewritten.value_isSome hset

theorem Framed.flag_isSome (h : Framed p carried q) (hset : p.flag.isSome = true) : q.flag.isSome = true := by
  by_cases hflag : q.flag = p.flag
  · rwa [hflag]
  · exact (h.flag hflag).1

end Frames

/-- **The frame of a step.** Let inputs and output be scripted. Whatever the script and the performance: the memory of
one character at most changes, who is the only one on stage beside the speaker, and of that the value by an assignment,
an input or a recall, and the stack by a remembering, which puts one number on top, or a recall, which makes the top the
value. The flag changes by comparisons only, and the stage by directions only. What is printed is the value of that
character, once and by an output; what is taken is the first of the inputs, by an input that such a character can hear.
Values and flags that are set stay set, and a step that faults changes no memory and no flag and prints nothing. -/
theorem step_framed (script : Script) (p : Performance Scripted) :
    let q := (p.step script Scripted.console).2
    Framed p (p.carried? script Scripted.console) q ∧
      (∀ c c', q.memoryAt c ≠ p.memoryAt c → q.memoryAt c' ≠ p.memoryAt c' → c = c') ∧
      (∀ c, (p.memoryAt c).value.isSome = true → (q.memoryAt c).value.isSome = true) ∧
      (p.flag.isSome = true → q.flag.isSome = true) ∧
      ∀ fault, (p.step script Scripted.console).1 = .error fault →
        q.memory = p.memory ∧ q.flag = p.flag ∧ q.console.printed = p.console.printed := by
  obtain ⟨framed, kept⟩ := step_framed_kept script p
  exact ⟨framed, fun c c' => framed.one, fun c => framed.value_isSome, framed.flag_isSome, kept⟩

/-! ## Runs -/

/-- what holds of a performance and of what becomes of it -/
structure Onward (p q : Performance Scripted) : Prop where
  cells : q.memory.length = p.memory.length
  value : ∀ c, (p.memoryAt c).value.isSome = true → (q.memoryAt c).value.isSome = true
  flag : p.flag.isSome = true → q.flag.isSome = true
  printed : p.console.printed <:+ q.console.printed
  inputs : q.console.inputs <:+ p.console.inputs

theorem Onward.refl (p : Performance Scripted) : Onward p p :=
  ⟨rfl, fun _ => id, id, List.suffix_refl _, List.suffix_refl _⟩

theorem Onward.trans {p q r : Performance Scripted} (h : Onward p q) (h' : Onward q r) : Onward p r where
  cells := h'.cells.trans h.cells
  value := fun c hc => h'.value c (h.value c hc)
  flag := fun hset => h'.flag (h.flag hset)
  printed := h.printed.trans h'.printed
  inputs := h'.inputs.trans h.inputs

theorem Framed.onward {p q : Performance Scripted} {carried : Option Operation} (h : Framed p carried q) :
    Onward p q where
  cells := h.cells
  value := fun _ => h.value_isSome
  flag := h.flag_isSome
  printed := by
    rcases h.printed with hsame | ⟨-, -, -, -, -, text, -, -, -, -, hprinted⟩
    · exact hsame ▸ List.suffix_refl _
    · exact hprinted ▸ List.suffix_cons text _
  inputs := by
    rcases h.inputs with hsame | ⟨-, -, -, -, input, -, -, hinputs⟩
    · exact hsame ▸ List.suffix_refl _
    · exact hinputs ▸ List.suffix_cons input _

/-- **However far a performance goes**, nothing that is set is unset, output is never taken back, and what inputs are
left are the last of those that there were. -/
theorem run_onward (script : Script) (limit : Nat) (p : Performance Scripted) :
    Onward p (p.run script Scripted.console limit).2 := by
  induction limit generalizing p with
  | zero => exact .refl p
  | succ limit ih =>
    have next := (step_framed_kept script p).1.onward
    unfold run
    rcases hstep : p.step script Scripted.console with ⟨(fault | ⟨_ | _⟩), q⟩ <;> rw [hstep] at next
    · exact next
    · exact next
    · exact next.trans (ih q)

end Performance

end Playscript
