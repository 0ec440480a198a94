/-
Running one operation. It looks at the live state, so a scene that is played again sees what has become of it.

Nothing is recorded before an operation has all it needs, except that a direction about several characters moves them
one at a time, and that input which has been read stays read.
-/
import Playscript.Performance.State
import Playscript.Text.Blank
import Playscript.Text.Decimal

namespace Playscript

/-- where to go after an operation -/
inductive Flow where
  | next
  | jump (act scene : Nat)
  deriving DecidableEq, Repr

def Script.nameOf (script : Script) (character : Nat) : Ident := script.characters.getD character ⟨""⟩

namespace Performance

variable {σ : Type} (script : Script)

/-! ## Values -/

def memoryAt (p : Performance σ) (character : Nat) : Memory := p.memory.getD character Memory.blank

def valueAt (p : Performance σ) (character : Nat) : Except RuntimeError Int64 :=
  match (p.memoryAt character).value with
  | some n => .ok n
  | none => .error (.unsetValue (script.nameOf character))

/-- the only character on stage beside the speaker -/
def addressee (p : Performance σ) (speaker : Nat) : Except RuntimeError Nat :=
  match p.stage.filter (· != speaker) with
  | [] => .error (.noAddressee (script.nameOf speaker))
  | [other] => .ok other
  | others => .error (.ambiguousAddressee (script.nameOf speaker) others.length)

/-- the outcome of an arithmetic step as the outcome of an operation -/
def computed (answer : Except ArithmeticError Int64) : Except RuntimeError Int64 :=
  match answer with
  | .ok n => .ok n
  | .error cause => .error (.arithmetic cause)

/-- the value of an operand, its left side before its right -/
def evaluate (p : Performance σ) (speaker : Nat) : Operand → Except RuntimeError Int64
  | .constant n => .ok n
  | .binary op lhs rhs => do
    let a ← evaluate p speaker lhs
    let b ← evaluate p speaker rhs
    computed (op.apply a b)
  | .unary op operand => do
    let n ← evaluate p speaker operand
    computed (op.apply n)
  | .character i => p.valueAt script i
  | .role .speaker => p.valueAt script speaker
  | .role .addressee => do
    let other ← p.addressee script speaker
    p.valueAt script other

def setMemory (p : Performance σ) (character : Nat) (memory : Memory) : Performance σ :=
  { p with memory := p.memory.set character memory }

def setValue (p : Performance σ) (character : Nat) (n : Int64) : Performance σ :=
  p.setMemory character { p.memoryAt character with value := some n }

/-! ## Directions -/

/-- brings characters on stage, up to the first who is there already -/
def enter (p : Performance σ) : List Nat → Except RuntimeError Flow × Performance σ
  | [] => (.ok .next, p)
  | c :: rest =>
    if c ∈ p.stage then (.error (.alreadyOnStage (script.nameOf c)), p)
    else enter { p with stage := p.stage ++ [c] } rest

/-- sends characters off stage, up to the first who is not there -/
def leave (p : Performance σ) : List Nat → Except RuntimeError Flow × Performance σ
  | [] => (.ok .next, p)
  | c :: rest =>
    if c ∈ p.stage then leave { p with stage := p.stage.erase c } rest
    else (.error (.notOnStage (script.nameOf c)), p)

/-! ## Input and output -/

/-- the number that an input stands for -/
def accept (channel : Channel) (input : String) : Except RuntimeError Int64 :=
  match channel with
  | .character =>
    match input.toList with
    | [c] => .ok (Int64.ofNat c.toNat)
    | _ => .error (.invalidCharacterInput input)
  | .integer =>
    match (Text.readSigned (Text.trimChars input.toList)).bind narrow with
    | some n => .ok n
    | none => .error (.invalidIntegerInput input)

/-- whether a number is the code of a character: no surrogate, and at most U+10FFFF -/
def isCharacterCode (n : Int) : Bool := (0 ≤ n && n < 0xd800) || (0xdfff < n && n < 0x110000)

/-- how a number is written to a channel -/
def written (channel : Channel) (n : Int64) : Except RuntimeError String :=
  match channel with
  | .character =>
    if isCharacterCode n.toInt then .ok (String.singleton (Char.ofNat n.toInt.toNat))
    else .error (.invalidCharacterOutput n)
  | .integer => .ok (toString n.toInt)

def readFrom (console : Console σ) (channel : Channel) : σ → Except ConsoleError String × σ :=
  match channel with
  | .character => console.readCharacter
  | .integer => console.readInteger

/-! ## Operations -/

/-- goes on with an answer, or fails and leaves the performance as it is -/
def given {α : Type} (p : Performance σ) (answer : Except RuntimeError α)
    (proceed : α → Except RuntimeError Flow × Performance σ) : Except RuntimeError Flow × Performance σ :=
  match answer with
  | .ok a => proceed a
  | .error cause => (.error cause, p)

/-- the answer of a console as the answer of an operation -/
def answered {α : Type} (answer : Except ConsoleError α) : Except RuntimeError α :=
  match answer with
  | .ok a => .ok a
  | .error cause => .error (.console cause)

/-- pops the stack of a character into its value -/
def popStack (p : Performance σ) (character : Nat) : Except RuntimeError Flow × Performance σ :=
  match (p.memoryAt character).stack with
  | [] => (.error (.emptyStack (script.nameOf character)), p)
  | top :: rest => (.ok .next, p.setMemory character ⟨some top, rest⟩)

/-- carries out a direction; speeches hold none -/
def direct (p : Performance σ) : Action → Except RuntimeError Flow × Performance σ
  | .enter characters => p.enter script characters
  | .exit c => p.leave script [c]
  | .exeunt [] => (.ok .next, { p with stage := [] })
  | .exeunt characters => p.leave script characters
  | _ => (.ok .next, p)

variable (console : Console σ)

/-- what `speaker`, who is on stage, does -/
def act (p : Performance σ) (speaker : Nat) : Action → Except RuntimeError Flow × Performance σ
  | .assign value =>
    p.given (p.evaluate script speaker value) fun n =>
    p.given (p.addressee script speaker) fun other =>
    (.ok .next, p.setValue other n)
  | .compare relation negated lhs rhs =>
    p.given (p.evaluate script speaker lhs) fun a =>
    p.given (p.evaluate script speaker rhs) fun b =>
    (.ok .next, { p with flag := some (relation.holds a b != negated) })
  | .jump act scene => (.ok (.jump act scene), p)
  | .input channel =>
    p.given (p.addressee script speaker) fun other =>
    let (answer, state) := readFrom console channel p.console
    let p := { p with console := state }
    p.given (answered answer) fun input =>
    p.given (accept channel input) fun n =>
    (.ok .next, p.setValue other n)
  | .output channel =>
    p.given (p.addressee script speaker) fun other =>
    p.given (p.valueAt script other) fun n =>
    p.given (written channel n) fun text =>
    let (answer, state) := console.print text p.console
    let p := { p with console := state }
    p.given (answered answer) fun _ => (.ok .next, p)
  | .remember value =>
    p.given (p.evaluate script speaker value) fun n =>
    p.given (p.addressee script speaker) fun other =>
    let memory := p.memoryAt other
    (.ok .next, p.setMemory other { memory with stack := n :: memory.stack })
  | .recall => p.given (p.addressee script speaker) fun other => p.popStack script other
  | direction => p.direct script direction

/-- runs an action whose guard has let it through -/
def unguarded (p : Performance σ) (operation : Operation) : Except RuntimeError Flow × Performance σ :=
  match operation.speaker with
  | none => p.direct script operation.action
  | some speaker =>
    if speaker ∈ p.stage then p.act script console speaker operation.action
    else (.error (.notOnStage (script.nameOf speaker)), p)

/-- runs an operation; a guard that does not agree with the flag skips it -/
def execute (p : Performance σ) (operation : Operation) : Except RuntimeError Flow × Performance σ :=
  match operation.guard with
  | none => p.unguarded script console operation
  | some polarity =>
    match p.flag with
    | none => (.error .flagUnset, p)
    | some flag => if flag = polarity then p.unguarded script console operation else (.ok .next, p)

end Performance

end Playscript
