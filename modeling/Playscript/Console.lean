/-
Consoles: where a performance reads its input and leaves its output. A console is a record of functions on a state, so
that what happens to the outside is a value like any other.

`Scripted` answers from a list of inputs and keeps what is printed. `Console.plain` supplies empty inputs for ever and
takes no reports, and `Console.breaking` is a console one of whose functions always fails.
-/

namespace Playscript

/-- why a console fails -/
inductive ConsoleError where
  | noInput
  | broken
  | notText
  deriving DecidableEq, Repr

def ConsoleError.message : ConsoleError → String
  | .noInput => "no scripted input left"
  | .broken => "broken console"
  | .notText => "stream did not contain valid UTF-8"

/-- inputs are handed over raw; whether they are acceptable is decided by the performance -/
structure Console (σ : Type) where
  print : String → σ → Except ConsoleError Unit × σ
  readCharacter : σ → Except ConsoleError String × σ
  readInteger : σ → Except ConsoleError String × σ
  /-- whether every executed operation is to be reported -/
  wantsReports : σ → Bool
  report : String → σ → Except ConsoleError Unit × σ
  /-- called once as a performance starts -/
  clear : σ → Except ConsoleError Unit × σ

/-- queued inputs and captured output; what was printed and reported last comes first -/
structure Scripted where
  inputs : List String
  printed : List String
  debug : Bool
  reports : List String
  clears : Nat
  deriving DecidableEq, Repr

namespace Scripted

def ofInputs (inputs : List String) (debug : Bool) : Scripted := ⟨inputs, [], debug, [], 0⟩

/-- all that was printed -/
def output (state : Scripted) : String := String.join state.printed.reverse

def print (text : String) (state : Scripted) : Except ConsoleError Unit × Scripted :=
  (.ok (), { state with printed := text :: state.printed })

/-- the next input, or else `answer` -/
def nextInput (answer : Except ConsoleError String) (state : Scripted) : Except ConsoleError String × Scripted :=
  match state.inputs with
  | [] => (answer, state)
  | input :: inputs => (.ok input, { state with inputs := inputs })

/-- fails when the inputs run out -/
def console : Console Scripted where
  print := print
  readCharacter := nextInput (.error .noInput)
  readInteger := nextInput (.error .noInput)
  wantsReports := (·.debug)
  report := fun text state => (.ok (), { state with reports := text :: state.reports })
  clear := fun state => (.ok (), { state with clears := state.clears + 1 })

end Scripted

namespace Console

/-- a console that does nothing when it is cleared and wants no reports -/
def plain : Console Scripted where
  print := Scripted.print
  readCharacter := Scripted.nextInput (.ok "")
  readInteger := Scripted.nextInput (.ok "")
  wantsReports := fun _ => false
  report := fun _ state => (.ok (), state)
  clear := fun state => (.ok (), state)

/-- functions of a console that may be broken -/
inductive Part where
  | print
  | report
  | clear
  deriving DecidableEq, Repr

/-- the console with a broken part, which fails and does nothing else -/
def breaking {σ : Type} (part : Part) (console : Console σ) : Console σ :=
  match part with
  | .print => { console with print := fun _ state => (.error .broken, state) }
  | .report => { console with report := fun _ state => (.error .broken, state) }
  | .clear => { console with clear := fun state => (.error .broken, state) }

end Console

end Playscript
