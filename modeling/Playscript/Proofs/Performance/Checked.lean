/-
Performances that look before they index.

Here every look at a memory, at an identifier or at an operation may find nothing: a number that is out of bounds stops
the computation, which then has no outcome at all. Identifiers are looked up where an error or a report names them, and
nowhere else. Apart from that each function does what its namesake does that does not look, so `step?` has no outcome
exactly when a step would reach for something that is not there.
-/
import Playscript.Performance.Step

namespace Playscript.Performance

variable {σ : Type} (script : Script)

/-! ## Values -/

/-- an answer that takes looking up; nothing when a number is out of bounds -/
abbrev Lookup (α : Type) := ExceptT RuntimeError Option α

/-- an answer that takes no looking up -/
def certain {α : Type} (answer : Except RuntimeError α) : Lookup α := ExceptT.mk (some answer)

/-- fails with an error that names a character -/
def naming? {α : Type} (error : Ident → RuntimeError) (character : Nat) : Lookup α := do
  let id ← ExceptT.lift script.characters[character]?
  throw (error id)

def valueAt? (p : Performance σ) (character : Nat) : Lookup Int64 := do
  let memory ← ExceptT.lift p.memory[character]?
  match memory.value with
  | some n => return n
  | none => naming? script .unsetValue character

def addressee? (p : Performance σ) (speaker : Nat) : Lookup Nat :=
  match p.stage.filter (· != speaker) with
  | [] => naming? script .noAddressee speaker
  | [other] => return other
  | others => naming? script (.ambiguousAddressee · others.length) speaker

def evaluate? (p : Performance σ) (speaker : Nat) : Operand → Lookup Int64
  | .constant n => return n
  | .binary op lhs rhs => do
    let a ← evaluate? p speaker lhs
    let b ← evaluate? p speaker rhs
    certain (computed (op.apply a b))
  | .unary op operand => do
    let n ← evaluate? p speaker operand
    certain (computed (op.apply n))
  | .character i => p.valueAt? script i
  | .role .speaker => p.valueAt? script speaker
  | .role .addressee => do
    let other ← p.addressee? script speaker
    p.valueAt? script other

/-! ## Operations -/

/-- where to go after an operation, and the performance as it leaves it -/
abbrev Outcome (σ : Type) := Except RuntimeError Flow × Performance σ

def given? {α : Type} (p : Performance σ) (answer : Lookup α) (proceed : α → Option (Outcome σ)) :
    Option (Outcome σ) := do
  match ← answer.run with
  | .ok a => proceed a
  | .error cause => return (.error cause, p)

/-- fails with an error that names a character -/
def stop? (p : Performance σ) (error : Ident → RuntimeError) (character : Nat) : Option (Outcome σ) := do
  let id ← script.characters[character]?
  return (.error (error id), p)

/-- changes what a character holds -/
def change? (p : Performance σ) (character : Nat) (f : Memory → Memory) : Option (Outcome σ) := do
  let memory ← p.memory[character]?
  return (.ok .next, p.setMemory character (f memory))

def enter? (p : Performance σ) : List Nat → Option (Outcome σ)
  | [] => some (.ok .next, p)
  | c :: rest =>
    if c ∈ p.stage then p.stop? script .alreadyOnStage c
    else enter? { p with stage := p.stage ++ [c] } rest

def leave? (p : Performance σ) : List Nat → Option (Outcome σ)
  | [] => some (.ok .next, p)
  | c :: rest =>
    if c ∈ p.stage then leave? { p with stage := p.stage.erase c } rest
    else p.stop? script .notOnStage c

def popStack? (p : Performance σ) (character : Nat) : Option (Outcome σ) := do
  let memory ← p.memory[character]?
  match memory.stack with
  | [] => p.stop? script .emptyStack character
  | top :: rest => p.change? character fun _ => ⟨some top, rest⟩

def direct? (p : Performance σ) : Action → Option (Outcome σ)
  | .enter characters => p.enter? script characters
  | .exit c => p.leave? script [c]
  | .exeunt [] => some (.ok .next, { p with stage := [] })
  | .exeunt characters => p.leave? script characters
  | _ => some (.ok .next, p)

variable (console : Console σ)

def act? (p : Performance σ) (speaker : Nat) : Action → Option (Outcome σ)
  | .assign value =>
    p.given? (p.evaluate? script speaker value) fun n =>
    p.given? (p.addressee? script speaker) fun other =>
    p.change? other fun memory => { memory with value := some n }
  | .compare relation negated lhs rhs =>
    p.given? (p.evaluate? script speaker lhs) fun a =>
    p.given? (p.evaluate? script speaker rhs) fun b =>
    some (.ok .next, { p with flag := some (relation.holds a b != negated) })
  | .jump act scene => some (.ok (.jump act scene), p)
  | .input channel =>
    p.given? (p.addressee? script speaker) fun other =>
    let (answer, state) := readFrom console channel p.console
    let p := { p with console := state }
    p.given? (certain (answered answer)) fun input =>
    p.given? (certain (accept channel input)) fun n =>
    p.change? other fun memory => { memory with value := some n }
  | .output channel =>
    p.given? (p.addressee? script speaker) fun other =>
    p.given? (p.valueAt? script other) fun n =>
    p.given? (certain (written channel n)) fun text =>
    let (answer, state) := console.print text p.console
    let p := { p with console := state }
    p.given? (certain (answered answer)) fun _ => some (.ok .next, p)
  | .remember value =>
    p.given? (p.evaluate? script speaker value) fun n =>
    p.given? (p.addressee? script speaker) fun other =>
    p.change? other fun memory => { memory with stack := n :: memory.stack }
  | .recall => p.given? (p.addressee? script speaker) fun other => p.popStack? script other
  | direction => p.direct? script direction

def unguarded? (p : Performance σ) (operation : Operation) : Option (Outcome σ) :=
  match operation.speaker with
  | none => p.direct? script operation.action
  | some speaker =>
    if speaker ∈ p.stage then p.act? script console speaker operation.action
    else p.stop? script .notOnStage speaker

def execute? (p : Performance σ) (operation : Operation) : Option (Outcome σ) :=
  match operation.guard with
  | none => p.unguarded? script console operation
  | some polarity =>
    match p.flag with
    | none => some (.error .flagUnset, p)
    | some flag => if flag = polarity then p.unguarded? script console operation else some (.ok .next, p)

/-! ## Steps -/

def reportOf? (p : Performance σ) (action : Action) : Option String := do
  let ids ← p.stage.mapM fun c => script.characters[c]?
  let stage := ", ".intercalate (ids.map (·.text))
  return action.text ++ " | stage: [" ++ stage ++ "] | flag: " ++ flagText p.flag

def reported? (p : Performance σ) (action : Action) : Option (Except Fault Bool × Performance σ) :=
  if console.wantsReports p.console then do
    let text ← p.reportOf? script action
    let (answer, state) := console.report text p.console
    let p := { p with console := state }
    match answer with
    | .ok () => return (.ok true, p)
    | .error cause => return p.fail (.console cause)
  else some (.ok true, p)

def advance? (p : Performance σ) : Option (Except Fault Bool × Performance σ) :=
  match script.settle p.position with
  | (position, none) => some (.ok false, { p with position := position, status := .finished })
  | (position, some index) => do
    let operation ← script.operations[index]?
    match ← { p with position := position }.execute? script console operation with
    | (.error cause, p) => return p.fail cause
    | (.ok flow, p) => (p.follow flow).reported? script console operation.action

def step? (p : Performance σ) : Option (Except Fault Bool × Performance σ) :=
  match p.status with
  | .finished => some (.error ⟨p.position, .halted⟩, p)
  | .failed => some (.error ⟨p.position, .halted⟩, p)
  | .running => p.advance? script console
  | .ready =>
    let (answer, state) := console.clear p.console
    let p := { p with status := .running, console := state }
    match answer with
    | .ok () => p.advance? script console
    | .error cause => some (p.fail (.console cause))

end Playscript.Performance
