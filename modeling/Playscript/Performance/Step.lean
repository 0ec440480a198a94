/-
Performing a script step by step.

The console is cleared as the first step begins. A fault or the end of the script closes the performance: further steps
answer `halted` and change nothing. On request every operation that was run, or passed over by its guard, is reported
together with the stage and the flag as it left them.
-/
import Playscript.Performance.Execute
import Playscript.Script.Text

namespace Playscript.Performance

variable {σ : Type} (script : Script) (console : Console σ)

def flagText : Option Bool → String
  | none => "None"
  | some true => "Some(true)"
  | some false => "Some(false)"

/-- the report of an operation that has been run -/
def reportOf (p : Performance σ) (action : Action) : String :=
  let stage := ", ".intercalate (p.stage.map fun c => (script.nameOf c).text)
  action.text ++ " | stage: [" ++ stage ++ "] | flag: " ++ flagText p.flag

/-- the performance stopped where it is -/
def fail (p : Performance σ) (error : RuntimeError) : Except Fault Bool × Performance σ :=
  (.error ⟨p.position, error⟩, { p with status := .failed })

/-- the performance at the place where the flow goes -/
def follow (p : Performance σ) : Flow → Performance σ
  | .next => { p with position := { p.position with line := p.position.line + 1 } }
  | .jump act scene => { p with position := ⟨act, scene, 0⟩ }

/-- reports an operation that has been run, if the console wants to know -/
def reported (p : Performance σ) (action : Action) : Except Fault Bool × Performance σ :=
  if console.wantsReports p.console then
    let (answer, state) := console.report (p.reportOf script action) p.console
    let p := { p with console := state }
    match answer with
    | .ok () => (.ok true, p)
    | .error cause => p.fail (.console cause)
  else (.ok true, p)

/-- runs the next operation of a performance that is going on -/
def advance (p : Performance σ) : Except Fault Bool × Performance σ :=
  match script.settle p.position with
  | (position, index) =>
    let p := { p with position := position }
    match index.bind fun i => script.operations[i]? with
    | none => (.ok false, { p with status := .finished })
    | some operation =>
      match p.execute script console operation with
      | (.error cause, p) => p.fail cause
      | (.ok flow, p) => (p.follow flow).reported script console operation.action

/-- runs one operation; `false` says that the script has ended -/
def step (p : Performance σ) : Except Fault Bool × Performance σ :=
  match p.status with
  | .finished => (.error ⟨p.position, .halted⟩, p)
  | .failed => (.error ⟨p.position, .halted⟩, p)
  | .running => p.advance script console
  | .ready =>
    let (answer, state) := console.clear p.console
    let p := { p with status := .running, console := state }
    match answer with
    | .ok () => p.advance script console
    | .error cause => p.fail (.console cause)

/-- steps until the script ends or a fault arises; no answer if that takes more than `limit` steps -/
def run : (limit : Nat) → Performance σ → Option (Except Fault Unit) × Performance σ
  | 0, p => (none, p)
  | limit + 1, p =>
    match p.step script console with
    | (.ok true, p) => run limit p
    | (.ok false, p) => (some (.ok ()), p)
    | (.error fault, p) => (some (.error fault), p)

/-! ## Views -/

/-- identifiers of the characters on stage, in order of entrance -/
def onStage (p : Performance σ) : List Ident := p.stage.map script.nameOf

/-- what a character holds -/
def memoryOf (p : Performance σ) (id : Ident) : Option Memory :=
  (script.character? id).map p.memoryAt

end Playscript.Performance
