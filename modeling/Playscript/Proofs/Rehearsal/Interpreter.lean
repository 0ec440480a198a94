/-
Rehearsals: programs performed as they stand, without a script.

Characters are known by their identifiers, on stage and in memory. Cues are taken from the program one after the other;
a conditional looks at the flag before anybody looks at its body; a jump finds its scene when it is made, and may find
none.
-/
import Playscript.Performance.Execute
import Playscript.Proofs.Rehearsal.Cues

namespace Playscript

/-- why a rehearsal stops -/
inductive Trouble where
  | runtime (error : RuntimeError)
  /-- a jump that leads nowhere -/
  | lost (target : JumpTarget)
  deriving DecidableEq, Repr

structure Rehearsal where
  memory : Ident → Memory
  /-- characters on stage in order of entrance -/
  stage : List Ident
  flag : Option Bool
  place : Place
  status : Status
  /-- inputs that nobody has read yet -/
  inputs : List String
  /-- what was printed last comes first -/
  printed : List String

namespace Rehearsal

/-- the rehearsal before its first step -/
def start (inputs : List String) : Rehearsal where
  memory := fun _ => Memory.blank
  stage := []
  flag := none
  place := .opening 0 0
  status := .ready
  inputs := inputs
  printed := []

/-! ## Values -/

def valueOf (r : Rehearsal) (id : Ident) : Except RuntimeError Int64 :=
  match (r.memory id).value with
  | some n => .ok n
  | none => .error (.unsetValue id)

/-- the only character on stage beside the speaker -/
def addressee (r : Rehearsal) (speaker : Ident) : Except RuntimeError Ident :=
  match r.stage.filter (· != speaker) with
  | [] => .error (.noAddressee speaker)
  | [other] => .ok other
  | others => .error (.ambiguousAddressee speaker others.length)

/-- what a value is worth to its speaker, its left side before its right -/
def evaluate (r : Rehearsal) (speaker : Ident) : Value → Except RuntimeError Int64
  | .constant n => .ok n
  | .binary op lhs rhs => do
    let a ← evaluate r speaker lhs
    let b ← evaluate r speaker rhs
    Performance.computed (op.apply a b)
  | .unary op operand => do
    let n ← evaluate r speaker operand
    Performance.computed (op.apply n)
  | .character id => r.valueOf id
  | .role .speaker => r.valueOf speaker
  | .role .addressee => do
    let other ← r.addressee speaker
    r.valueOf other

/-- the rehearsal in which a character holds something else -/
def hold (r : Rehearsal) (id : Ident) (memory : Memory) : Rehearsal :=
  { r with memory := fun other => if other = id then memory else r.memory other }

/-! ## Cues -/

/-- where to go after a cue, and the rehearsal as the cue leaves it -/
abbrev Outcome := Except Trouble Flow × Rehearsal

/-- stops where the rehearsal is -/
def stop (r : Rehearsal) (error : RuntimeError) : Outcome := (.error (.runtime error), r)

/-- goes on with an answer, or stops -/
def given {α : Type} (r : Rehearsal) (answer : Except RuntimeError α) (proceed : α → Outcome) : Outcome :=
  match answer with
  | .ok a => proceed a
  | .error error => r.stop error

/-- goes on if the speaker is on stage -/
def present (r : Rehearsal) (speaker : Ident) (proceed : Outcome) : Outcome :=
  if speaker ∈ r.stage then proceed else r.stop (.notOnStage speaker)

/-- brings characters on stage, up to the first who is there already -/
def enter (r : Rehearsal) : List Ident → Outcome
  | [] => (.ok .next, r)
  | id :: rest =>
    if id ∈ r.stage then r.stop (.alreadyOnStage id)
    else enter { r with stage := r.stage ++ [id] } rest

/-- sends characters off stage, up to the first who is not there -/
def leave (r : Rehearsal) : List Ident → Outcome
  | [] => (.ok .next, r)
  | id :: rest =>
    if id ∈ r.stage then leave { r with stage := r.stage.erase id } rest
    else r.stop (.notOnStage id)

/-- what comes of a statement when its speaker makes it -/
def speak (program : Program) (r : Rehearsal) (speaker : Ident) : Statement → Outcome
  | .conditional polarity body =>
    match r.flag with
    | none => r.stop .flagUnset
    | some flag => if flag = polarity then speak program r speaker body else (.ok .next, r)
  | .assign value =>
    r.present speaker <| r.given (r.evaluate speaker value) fun n => r.given (r.addressee speaker) fun other =>
      (.ok .next, r.hold other { r.memory other with value := some n })
  | .compare c =>
    r.present speaker <| r.given (r.evaluate speaker c.lhs) fun a => r.given (r.evaluate speaker c.rhs) fun b =>
      (.ok .next, { r with flag := some (c.relation.holds a b != c.negated) })
  | .jump target =>
    r.present speaker <| match program.destination? r.place.act target with
      | some (act, scene) => (.ok (.jump act scene), r)
      | none => (.error (.lost target), r)
  | .input channel =>
    r.present speaker <| r.given (r.addressee speaker) fun other =>
      match r.inputs with
      | [] => r.stop (.console .noInput)
      | input :: inputs =>
        let r := { r with inputs := inputs }
        r.given (Performance.accept channel input) fun n =>
          (.ok .next, r.hold other { r.memory other with value := some n })
  | .output channel =>
    r.present speaker <| r.given (r.addressee speaker) fun other => r.given (r.valueOf other) fun n =>
      r.given (Performance.written channel n) fun text => (.ok .next, { r with printed := text :: r.printed })
  | .remember value =>
    r.present speaker <| r.given (r.evaluate speaker value) fun n => r.given (r.addressee speaker) fun other =>
      (.ok .next, r.hold other { r.memory other with stack := n :: (r.memory other).stack })
  | .recall =>
    r.present speaker <| r.given (r.addressee speaker) fun other =>
      match (r.memory other).stack with
      | [] => r.stop (.emptyStack other)
      | top :: rest => (.ok .next, r.hold other ⟨some top, rest⟩)

def play (program : Program) (r : Rehearsal) : Cue → Outcome
  | .direction (.enter ids) => r.enter ids
  | .direction (.exit id) => r.leave [id]
  | .direction (.exeunt []) => (.ok .next, { r with stage := [] })
  | .direction (.exeunt ids) => r.leave ids
  | .statement speaker s => r.speak program speaker s

/-! ## Steps -/

/-- the rehearsal at the place where the flow goes -/
def follow (r : Rehearsal) : Flow → Rehearsal
  | .next => { r with place := r.place.next }
  | .jump act scene => { r with place := .opening act scene }

/-- plays the next cue of a rehearsal that is going on -/
def advance (program : Program) (r : Rehearsal) : Except (Place × Trouble) Bool × Rehearsal :=
  match program.cueFrom r.place with
  | none => (.ok false, { r with place := .opening program.acts.length 0, status := .finished })
  | some (place, cue) =>
    match { r with place := place, status := .running }.play program cue with
    | (.error trouble, r) => (.error (r.place, trouble), { r with status := .failed })
    | (.ok flow, r) => (.ok true, r.follow flow)

/-- plays one cue; `false` says that the program has ended -/
def step (program : Program) (r : Rehearsal) : Except (Place × Trouble) Bool × Rehearsal :=
  match r.status with
  | .ready | .running => r.advance program
  | .finished | .failed => (.error (r.place, .runtime .halted), r)

/-- the rehearsal after some steps, whatever they answer -/
def after (program : Program) : Nat → Rehearsal → Rehearsal
  | 0, r => r
  | n + 1, r => after program n (r.step program).2

end Rehearsal

end Playscript
