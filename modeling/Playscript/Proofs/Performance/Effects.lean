/-
What one step can do.

- `Moves`, `direct_moves`: what a direction makes of the stage. One about several characters moves them one at a time,
  so those before the one at whom it stops have moved (`enter_cases`, `leave_cases`);
- `Effect`, `execute_effect`: everything that an operation can do if its guard lets it, one case for each way to end;
- `next?`, `carried?`: the operation that the next step runs, and whether its guard lets it (`Begins`: nothing has
  happened until then);
- `Stepped`, `step_stepped`: everything that a step can do.
-/
import Mathlib.Data.List.Nodup
import Playscript.Proofs.Performance.Checked
import Playscript.Proofs.Performance.Settling

namespace Playscript

def Action.isDirection : Action → Bool
  | .enter _ => true
  | .exit _ => true
  | .exeunt _ => true
  | _ => false

/-- the guard agrees with the flag, or there is no guard -/
def Operation.allowed (operation : Operation) (flag : Option Bool) : Bool :=
  operation.guard.all fun polarity => flag = some polarity

namespace Performance

variable {σ : Type}

/-! ## Directions -/

/-- all enter, or those before the first who is on stage already when his turn comes -/
theorem enter_cases (script : Script) (p : Performance σ) (characters : List Nat) :
    p.enter script characters = (.ok .next, { p with stage := p.stage ++ characters }) ∨
      ∃ before c after, characters = before ++ c :: after ∧ c ∈ p.stage ++ before ∧
        p.enter script characters =
          (.error (.alreadyOnStage (script.nameOf c)), { p with stage := p.stage ++ before }) := by
  induction characters generalizing p with
  | nil => exact .inl (by rw [enter, List.append_nil])
  | cons c rest ih =>
    unfold enter
    by_cases hstage : c ∈ p.stage
    · rw [if_pos hstage]
      exact .inr ⟨[], c, rest, rfl, List.mem_append_left _ hstage, by rw [List.append_nil]⟩
    · rw [if_neg hstage]
      have shift : ∀ more, p.stage ++ [c] ++ more = p.stage ++ c :: more := fun more => List.append_assoc _ _ _
      rcases ih { p with stage := p.stage ++ [c] } with h | ⟨before, other, after, rfl, hmem, h⟩
      · exact .inl (by rw [h, shift])
      · rw [shift] at hmem h
        exact .inr ⟨c :: before, other, after, rfl, hmem, h⟩

/-- all leave, or those before the first who is not on stage when his turn comes -/
theorem leave_cases (script : Script) (p : Performance σ) (characters : List Nat) :
    p.leave script characters = (.ok .next, { p with stage := p.stage.diff characters }) ∨
      ∃ before c after, characters = before ++ c :: after ∧ c ∉ p.stage.diff before ∧
        p.leave script characters =
          (.error (.notOnStage (script.nameOf c)), { p with stage := p.stage.diff before }) := by
  induction characters generalizing p with
  | nil => exact .inl rfl
  | cons c rest ih =>
    unfold leave
    by_cases hstage : c ∈ p.stage
    · rw [if_pos hstage]
      rcases ih { p with stage := p.stage.erase c } with h | ⟨before, other, after, rfl, hmem, h⟩
      · exact .inl (by rw [h, List.diff_cons])
      · refine .inr ⟨c :: before, other, after, rfl, ?_, by rw [h, List.diff_cons]⟩
        rwa [List.diff_cons]
    · rw [if_neg hstage]
      exact .inr ⟨[], c, rest, rfl, hstage, rfl⟩

/-- how a direction ends, and the stage as it leaves it -/
inductive Moves (script : Script) (stage : List Nat) : Action → Except RuntimeError Flow → List Nat → Prop
  | entered (characters : List Nat) : Moves script stage (.enter characters) (.ok .next) (stage ++ characters)
  | present {before after : List Nat} {c : Nat} : c ∈ stage ++ before →
    Moves script stage (.enter (before ++ c :: after)) (.error (.alreadyOnStage (script.nameOf c))) (stage ++ before)
  | exited (c : Nat) : Moves script stage (.exit c) (.ok .next) (stage.erase c)
  | missed {c : Nat} : c ∉ stage → Moves script stage (.exit c) (.error (.notOnStage (script.nameOf c))) stage
  | cleared : Moves script stage (.exeunt []) (.ok .next) []
  | left (characters : List Nat) : Moves script stage (.exeunt characters) (.ok .next) (stage.diff characters)
  | absent {before after : List Nat} {c : Nat} : c ∉ stage.diff before →
    Moves script stage (.exeunt (before ++ c :: after)) (.error (.notOnStage (script.nameOf c))) (stage.diff before)

theorem Moves.isDirection {script : Script} {stage stage' : List Nat} {action : Action}
    {answer : Except RuntimeError Flow} (h : Moves script stage action answer stage') : action.isDirection = true := by
  cases h <;> rfl

/-- **A direction changes the stage only**, and tells how far it has come. -/
theorem direct_moves (script : Script) (p : Performance σ) {action : Action} (h : action.isDirection = true) :
    ∃ answer stage, p.direct script action = (answer, { p with stage := stage }) ∧
      Moves script p.stage action answer stage := by
  cases action with
  | enter characters =>
    rcases p.enter_cases script characters with he | ⟨before, c, after, rfl, hmem, he⟩
    · exact ⟨_, _, he, .entered characters⟩
    · exact ⟨_, _, he, .present hmem⟩
  | exit c =>
    rcases p.leave_cases script [c] with he | ⟨before, other, after, hsplit, hmem, he⟩
    · exact ⟨_, _, he, List.diff_cons p.stage [] c ▸ .exited c⟩
    · obtain ⟨rfl, hrest⟩ : before = [] ∧ other :: after = [c] := by
        cases before with
        | nil => exact ⟨rfl, hsplit.symm⟩
        | cons first before => simp at hsplit
      cases hrest
      exact ⟨_, _, he, .missed hmem⟩
  | exeunt characters =>
    cases characters with
    | nil => exact ⟨_, _, rfl, .cleared⟩
    | cons first characters =>
      rcases p.leave_cases script (first :: characters) with he | ⟨before, c, after, hsplit, hmem, he⟩
      · exact ⟨_, _, he, .left _⟩
      · exact ⟨_, _, he, hsplit ▸ .absent hmem⟩
  | _ => cases h

/-! ## Operations -/

/-- somebody on stage speaks an operation to the only other character there -/
structure Addresses (script : Script) (p : Performance σ) (operation : Operation) (speaker other : Nat) : Prop where
  speaks : operation.speaker = some speaker
  present : speaker ∈ p.stage
  addressee : p.addressee script speaker = .ok other

/-- an addressee is the one character on stage beside the speaker -/
theorem Addresses.only {script : Script} {p : Performance σ} {operation : Operation} {speaker other : Nat}
    (h : Addresses script p operation speaker other) : p.stage.filter (· != speaker) = [other] := by
  have addressee := h.addressee
  unfold Performance.addressee at addressee
  split at addressee
  · cases addressee
  · cases addressee
    assumption
  · cases addressee

/-- every outcome that an operation can have whose guard lets it through -/
inductive Effect (script : Script) (console : Console σ) (p : Performance σ) (operation : Operation) : Outcome σ → Prop
  /-- something is missing, or cannot be computed or written -/
  | stopped (cause : RuntimeError) : Effect script console p operation (.error cause, p)
  /-- what nobody speaks, and is no direction either, does nothing -/
  | unspoken : operation.speaker = none → operation.action.isDirection = false →
    Effect script console p operation (.ok .next, p)
  | moved {answer : Except RuntimeError Flow} {stage : List Nat} : Moves script p.stage operation.action answer stage →
    Effect script console p operation (answer, { p with stage := stage })
  | assigned {speaker other : Nat} {value : Operand} {n : Int64} : Addresses script p operation speaker other →
    operation.action = .assign value → p.evaluate script speaker value = .ok n →
    Effect script console p operation (.ok .next, p.setValue other n)
  | compared {speaker : Nat} {relation : Relation} {negated : Bool} {lhs rhs : Operand} {a b : Int64} :
    operation.speaker = some speaker → speaker ∈ p.stage → operation.action = .compare relation negated lhs rhs →
    p.evaluate script speaker lhs = .ok a → p.evaluate script speaker rhs = .ok b →
    Effect script console p operation (.ok .next, { p with flag := some (relation.holds a b != negated) })
  | jumped {act scene : Nat} : operation.action = .jump act scene →
    Effect script console p operation (.ok (.jump act scene), p)
  /-- there is no input, or none of the kind that is asked for -/
  | refused {speaker other : Nat} {channel : Channel} (cause : RuntimeError) :
    Addresses script p operation speaker other → operation.action = .input channel →
    Effect script console p operation (.error cause, { p with console := (readFrom console channel p.console).2 })
  | received {speaker other : Nat} {channel : Channel} {input : String} {n : Int64} :
    Addresses script p operation speaker other → operation.action = .input channel →
    (readFrom console channel p.console).1 = .ok input → accept channel input = .ok n →
    Effect script console p operation
      (.ok .next, { p with console := (readFrom console channel p.console).2 }.setValue other n)
  | unprinted {speaker other : Nat} {channel : Channel} {n : Int64} {text : String} {cause : ConsoleError} :
    Addresses script p operation speaker other → operation.action = .output channel →
    p.valueAt script other = .ok n → written channel n = .ok text → (console.print text p.console).1 = .error cause →
    Effect script console p operation
      (.error (.console cause), { p with console := (console.print text p.console).2 })
  | printed {speaker other : Nat} {channel : Channel} {n : Int64} {text : String} :
    Addresses script p operation speaker other → operation.action = .output channel →
    p.valueAt script other = .ok n → written channel n = .ok text → (console.print text p.console).1 = .ok () →
    Effect script console p operation (.ok .next, { p with console := (console.print text p.console).2 })
  | pushed {speaker other : Nat} {value : Operand} {n : Int64} : Addresses script p operation speaker other →
    operation.action = .remember value → p.evaluate script speaker value = .ok n →
    Effect script console p operation
      (.ok .next, p.setMemory other { p.memoryAt other with stack := n :: (p.memoryAt other).stack })
  | popped {speaker other : Nat} {top : Int64} {rest : List Int64} : Addresses script p operation speaker other →
    operation.action = .recall → (p.memoryAt other).stack = top :: rest →
    Effect script console p operation (.ok .next, p.setMemory other ⟨some top, rest⟩)

section Operations

variable {script : Script} {console : Console σ} {p : Performance σ} {operation : Operation}

theorem Effect.given {α : Type} {answer : Except RuntimeError α} {proceed : α → Outcome σ}
    (h : ∀ a, answer = .ok a → Effect script console p operation (proceed a)) :
    Effect script console p operation (p.given answer proceed) := by
  cases answer with
  | ok a => exact h a rfl
  | error cause => exact .stopped cause

theorem direct_effect {action : Action} (haction : operation.action = action) (h : action.isDirection = true) :
    Effect script console p operation (p.direct script action) := by
  obtain ⟨answer, stage, he, hmoves⟩ := p.direct_moves script h
  rw [he]
  exact .moved (haction ▸ hmoves)

/-- what a character on stage can do -/
theorem act_effect {speaker : Nat} (hspeaks : operation.speaker = some speaker) (hpresent : speaker ∈ p.stage) :
    Effect script console p operation (p.act script console speaker operation.action) := by
  have addressed : ∀ other, p.addressee script speaker = .ok other → Addresses script p operation speaker other :=
    fun other ho => ⟨hspeaks, hpresent, ho⟩
  cases haction : operation.action with
  | enter characters => exact direct_effect haction rfl
  | exit c => exact direct_effect haction rfl
  | exeunt characters => exact direct_effect haction rfl
  | assign value => exact .given fun n hn => .given fun other ho => .assigned (addressed other ho) haction hn
  | compare relation negated lhs rhs =>
    exact .given fun a ha => .given fun b hb => .compared hspeaks hpresent haction ha hb
  | jump act scene => exact .jumped haction
  | input channel =>
    refine .given fun other ho => ?_
    have speaks := addressed other ho
    dsimp only
    cases hread : (readFrom console channel p.console).1 with
    | error cause => exact .refused _ speaks haction
    | ok input =>
      dsimp only [answered, Performance.given]
      cases haccept : accept channel input with
      | error cause => exact .refused cause speaks haction
      | ok n => exact .received speaks haction hread haccept
  | output channel =>
    refine .given fun other ho => .given fun n hn => .given fun text htext => ?_
    have speaks := addressed other ho
    dsimp only
    cases hprint : (console.print text p.console).1 with
    | error cause => exact .unprinted speaks haction hn htext hprint
    | ok _ => exact .printed speaks haction hn htext hprint
  | remember value => exact .given fun n hn => .given fun other ho => .pushed (addressed other ho) haction hn
  | «recall» =>
    refine .given fun other ho => ?_
    unfold popStack
    cases hstack : (p.memoryAt other).stack with
    | nil => exact .stopped _
    | cons top rest => exact .popped (addressed other ho) haction hstack

theorem unguarded_effect : Effect script console p operation (p.unguarded script console operation) := by
  unfold unguarded
  cases hspeaker : operation.speaker with
  | none =>
    cases hdirection : operation.action.isDirection with
    | true => exact direct_effect rfl hdirection
    | false =>
      have idle : p.direct script operation.action = (.ok .next, p) := by
        cases haction : operation.action with
        | enter characters => rw [haction] at hdirection; cases hdirection
        | exit c => rw [haction] at hdirection; cases hdirection
        | exeunt characters => rw [haction] at hdirection; cases hdirection
        | _ => rfl
      exact idle ▸ .unspoken hspeaker hdirection
  | some speaker =>
    dsimp only
    by_cases hstage : speaker ∈ p.stage
    · rw [if_pos hstage]
      exact act_effect hspeaker hstage
    · rw [if_neg hstage]
      exact .stopped _

/-- **Every outcome of an operation is one of these**, or its guard holds it back and nothing happens. -/
theorem execute_effect :
    (operation.allowed p.flag = false ∧ (p.execute script console operation).2 = p) ∨
      (operation.allowed p.flag = true ∧ Effect script console p operation (p.execute script console operation)) := by
  unfold execute Operation.allowed
  cases operation.guard with
  | none => exact .inr ⟨rfl, unguarded_effect⟩
  | some polarity =>
    dsimp only [Option.all_some]
    cases p.flag with
    | none => exact .inl ⟨rfl, rfl⟩
    | some flag =>
      dsimp only
      by_cases hagree : flag = polarity
      · rw [if_pos hagree, hagree]
        exact .inr ⟨decide_eq_true rfl, unguarded_effect⟩
      · rw [if_neg hagree]
        exact .inl ⟨decide_eq_false fun h => hagree (Option.some.inj h), rfl⟩

end Operations

/-! ## Steps -/

section Steps

variable (script : Script) (console : Console σ)

/-- the performance as its next step begins, unless it is over or the console cannot be cleared -/
def begun? (p : Performance σ) : Option (Performance σ) :=
  match p.status with
  | .finished => none
  | .failed => none
  | .running => some p
  | .ready =>
    match console.clear p.console with
    | (.ok (), state) => some { p with status := .running, console := state }
    | (.error _, _) => none

/-- the operation that the next step runs, and the performance at the place of it -/
def next? (p : Performance σ) : Option (Performance σ × Operation) :=
  (p.begun? console).bind fun p =>
    ((script.settle p.position).2.bind fun i => script.operations[i]?).map fun operation =>
      ({ p with position := (script.settle p.position).1 }, operation)

variable {script console} in
theorem next?_eq_none {p : Performance σ} (h : p.begun? console = none) : p.next? script console = none := by
  rw [next?, h]
  rfl

/-- the operation that the next step carries out -/
def carried? (p : Performance σ) : Option Operation :=
  match p.next? script console with
  | some (q, operation) => if operation.allowed q.flag then some operation else none
  | none => none

/-- as a step begins, only the console can have changed, by being cleared, and where the performance stands -/
structure Begins (p q : Performance σ) : Prop where
  memory : q.memory = p.memory
  stage : q.stage = p.stage
  flag : q.flag = p.flag
  console : q.console = p.console ∨ (p.status = .ready ∧ console.clear p.console = (.ok (), q.console))

variable {script console} in
theorem begins_of_begun? {p q : Performance σ} (h : p.begun? console = some q) :
    p.Begins console q ∧ q.position = p.position := by
  unfold begun? at h
  split at h
  · cases h
  · cases h
  · cases h
    exact ⟨⟨rfl, rfl, rfl, .inl rfl⟩, rfl⟩
  · rename_i hstatus
    split at h
    · rename_i state hclear
      cases h
      exact ⟨⟨rfl, rfl, rfl, .inr ⟨hstatus, hclear⟩⟩, rfl⟩
    · cases h

variable {script console} in
/-- the next operation is the one at which the position settles -/
theorem begins_of_next? {p q : Performance σ} {operation : Operation}
    (h : p.next? script console = some (q, operation)) :
    p.Begins console q ∧
      ∃ i, script.settle p.position = (q.position, some i) ∧ script.operations[i]? = some operation := by
  obtain ⟨begun, hbegun, h⟩ := Option.bind_eq_some_iff.1 h
  obtain ⟨begins, hposition⟩ := begins_of_begun? hbegun
  rw [hposition] at h
  obtain ⟨found, hfound, h⟩ := Option.map_eq_some_iff.1 h
  obtain ⟨i, hi, hoperation⟩ := Option.bind_eq_some_iff.1 hfound
  cases h
  exact ⟨⟨begins.memory, begins.stage, begins.flag, begins.console⟩, i, Prod.ext rfl hi, hoperation⟩

variable {script console} in
/-- the operation that a step runs stands where the performance does, which has moved to the beginning of a scene if it
has moved at all -/
theorem operationAt?_of_next? {p q : Performance σ} {operation : Operation}
    (h : p.next? script console = some (q, operation)) :
    script.operationAt? q.position = some operation ∧ (q.position = p.position ∨ q.position.line = 0) := by
  obtain ⟨-, i, hsettle, hoperation⟩ := begins_of_next? h
  rcases script.settle_cases p.position with hend | ⟨settled, span, hfound, hspan, hline, hmoved⟩
  · exact absurd (congrArg Prod.snd (hsettle.symm.trans hend)) nofun
  · obtain ⟨rfl, hindex⟩ := Prod.mk.inj (hsettle.symm.trans hfound)
    cases hindex
    refine ⟨?_, hmoved⟩
    rw [Script.operationAt?, hspan]
    exact (if_pos hline).trans hoperation

/-- every outcome that a step can have -/
inductive Stepped (p : Performance σ) : Except Fault Bool × Performance σ → Prop
  | stuck : p.begun? console = none → Stepped p (.error ⟨p.position, .halted⟩, p)
  | uncleared {cause : ConsoleError} : p.begun? console = none → (console.clear p.console).1 = .error cause →
    Stepped p ({ p with status := .running, console := (console.clear p.console).2 }.fail (.console cause))
  | ended {q : Performance σ} : p.begun? console = some q → p.next? script console = none →
    Stepped p (.ok false, { q with position := (script.settle q.position).1, status := .finished })
  | faulted {q r : Performance σ} {operation : Operation} {cause : RuntimeError} :
    p.next? script console = some (q, operation) → q.execute script console operation = (.error cause, r) →
    Stepped p (r.fail cause)
  | performed {q r : Performance σ} {operation : Operation} {flow : Flow} :
    p.next? script console = some (q, operation) → q.execute script console operation = (.ok flow, r) →
    Stepped p ((r.follow flow).reported script console operation.action)

variable {script console} in
theorem step_of_begun? {p q : Performance σ} (h : p.begun? console = some q) :
    p.step script console = q.advance script console := by
  unfold begun? at h
  unfold step
  cases hstatus : p.status with
  | finished => rw [hstatus] at h; cases h
  | failed => rw [hstatus] at h; cases h
  | running => rw [hstatus] at h; cases h; rfl
  | ready =>
    rw [hstatus] at h
    rcases hclear : console.clear p.console with ⟨_ | _, state⟩ <;> simp only [hclear] at h ⊢ <;> cases h
    rfl

variable {script console} in
/-- a step that finds an operation runs it, goes on and reports it -/
theorem step_of_next? {p q : Performance σ} {operation : Operation}
    (h : p.next? script console = some (q, operation)) :
    p.step script console =
      match q.execute script console operation with
      | (.error cause, r) => r.fail cause
      | (.ok flow, r) => (r.follow flow).reported script console operation.action := by
  obtain ⟨begun, hbegun, h⟩ := Option.bind_eq_some_iff.1 h
  obtain ⟨found, hfound, h⟩ := Option.map_eq_some_iff.1 h
  cases h
  rw [step_of_begun? hbegun]
  unfold advance
  rcases hexecute : execute script console { begun with position := (script.settle begun.position).1 } operation with
    ⟨_ | _, _⟩ <;> simp only [hfound, hexecute]

/-- **Every outcome of a step is one of these.** -/
theorem step_stepped (p : Performance σ) : Stepped script console p (p.step script console) := by
  cases hbegun : p.begun? console with
  | none =>
    have stuck := hbegun
    unfold begun? at hbegun
    unfold step
    cases hstatus : p.status with
    | finished => exact .stuck stuck
    | failed => exact .stuck stuck
    | running => rw [hstatus] at hbegun; cases hbegun
    | ready =>
      rw [hstatus] at hbegun
      dsimp only at hbegun ⊢
      split at hbegun
      · cases hbegun
      · rename_i cause state hclear
        have uncleared : (console.clear p.console).1 = .error cause := congrArg Prod.fst hclear
        rw [uncleared]
        exact .uncleared stuck uncleared
  | some q =>
    cases hnext : p.next? script console with
    | none =>
      have none : ((script.settle q.position).2.bind fun i => script.operations[i]?) = none := by
        rw [next?, hbegun] at hnext
        exact Option.map_eq_none_iff.1 hnext
      rw [step_of_begun? hbegun]
      unfold advance
      dsimp only
      rw [none]
      exact .ended hbegun hnext
    | some found =>
      obtain ⟨q, operation⟩ := found
      rw [step_of_next? hnext]
      rcases hexecute : q.execute script console operation with ⟨answer, r⟩
      cases answer with
      | error cause => exact .faulted hnext hexecute
      | ok flow => exact .performed hnext hexecute

end Steps

end Performance

end Playscript
