/-
A program and its script perform alike.

- `Mirrors.advance`, `Mirrors.step`: a step of the rehearsal and a step of the performance answer alike, and the two
  agree again;
- `Mirrors.after`: hence they agree after any number of steps;
- `perform_compiled`: so compiling keeps the meaning of every program that compiles.
-/
import Playscript.Performance.Step
import Playscript.Proofs.Performance.Lockstep
import Playscript.Proofs.Rehearsal.Mirroring

namespace Playscript

namespace Rehearsal

/-- the answer of a step of a rehearsal, with the position of the place where it stopped -/
def positioned (program : Program) (answer : Except (Place × Trouble) Bool) : Except (Position × Trouble) Bool :=
  answer.mapError fun (place, trouble) => (program.positionOf place, trouble)

/-- the answer of a step of a performance, in the same terms -/
def faulted (answer : Except Fault Bool) : Except (Position × Trouble) Bool :=
  answer.mapError fun fault => (fault.position, .runtime fault.error)

/-- a step of a rehearsal and a step of a performance answer alike, and leave the two in agreement and the rehearsal at
a proper place -/
structure Follows (program : Program) (outcome : Except (Place × Trouble) Bool × Rehearsal)
    (outcome' : Except Fault Bool × Performance Scripted) : Prop where
  answer : positioned program outcome.1 = faulted outcome'.1
  mirrors : Mirrors program outcome.2 outcome'.2
  proper : program.Proper outcome.2.place

section Steps

variable {program : Program} (sound : program.Sound) {r : Rehearsal} {p : Performance Scripted}
  (h : Mirrors program r p)
include h

/-- reports change nothing that a rehearsal knows about -/
theorem Mirrors.alike {q : Performance Scripted} (hq : p.Alike q) : Mirrors program r q where
  memory := hq.memory.trans h.memory
  stage := hq.stage.trans h.stage
  declared := h.declared
  flag := hq.flag.trans h.flag
  position := hq.position.trans h.position
  status := hq.status.trans h.status
  inputs := hq.inputs.trans h.inputs
  printed := hq.printed.trans h.printed

theorem Mirrors.follow (flow : Flow) : Mirrors program (r.follow flow) (p.follow flow) := by
  cases flow with
  | next => exact { h with position := by rw [Performance.follow, h.position]; rfl }
  | jump act scene => exact { h with position := rfl }

include sound

/-- the next cue and the next operation -/
theorem Mirrors.advance (hproper : program.Proper r.place) (hstatus : r.status = .running) :
    Follows program (r.advance program) (p.advance program.lower Scripted.console) := by
  unfold Rehearsal.advance Performance.advance
  rw [h.position]
  rcases Program.settle_eq sound.lower_covers hproper with
    ⟨hnone, hsettle⟩ | ⟨place, cue, spans, span, hsome, hsettle, hspans, hspan, hcued⟩
  · rw [hnone, hsettle]
    have hlength : program.lower.acts.length = program.acts.length := by
      rw [sound.lower_covers.length_eq, Program.linesByScene, List.length_map]
    have hend : (⟨program.lower.acts.length, 0, 0⟩ : Position) = program.positionOf (.opening program.acts.length 0) := by
      rw [hlength, Program.positionOf_opening]
    exact ⟨rfl, { h with position := hend, status := rfl }, Program.proper_opening _ _⟩
  · obtain ⟨operation, hoperation, hget⟩ := sound.operation_at hcued hspans hspan
    have moved : Mirrors program { r with place := place, status := .running }
        { p with position := program.positionOf place } :=
      { h with position := rfl, status := h.status.trans hstatus }
    have echoes := moved.cue sound hcued hoperation
    rw [hsome, hsettle]
    dsimp only
    rw [Option.bind_some, hget]
    rcases hplay : Rehearsal.play program { r with place := place, status := .running } cue with ⟨answer, r'⟩
    rcases hexecute : Performance.execute program.lower Scripted.console { p with position := program.positionOf place }
      operation with ⟨answer', p'⟩
    rw [hplay, hexecute] at echoes
    simp only [hexecute]
    obtain ⟨rfl, hmirrors, rfl⟩ := echoes
    dsimp only at hmirrors hcued
    cases answer' with
    | error cause =>
      refine ⟨?_, { hmirrors with status := rfl }, hcued.proper⟩
      exact congrArg (fun position => Except.error (position, Trouble.runtime cause)) hmirrors.position.symm
    | ok flow =>
      obtain ⟨hreported, halike⟩ := Performance.reported_alike program.lower (p'.follow flow) operation.action
      refine ⟨congrArg faulted hreported.symm, (hmirrors.follow flow).alike halike, ?_⟩
      cases flow with
      | next => exact hcued.proper_next
      | jump act scene => exact Program.proper_opening act scene

/-- **One step keeps a rehearsal and a performance in agreement**, and both answer alike. -/
theorem Mirrors.step (hproper : program.Proper r.place) :
    Follows program (r.step program) (p.step program.lower Scripted.console) := by
  have halted : Follows program (.error (r.place, .runtime .halted), r) (.error ⟨p.position, .halted⟩, p) :=
    ⟨congrArg (fun position => Except.error (position, Trouble.runtime .halted)) h.position.symm, h, hproper⟩
  unfold Rehearsal.step Performance.step
  rw [h.status]
  cases hstatus : r.status with
  | ready =>
    have begun : Mirrors program { r with status := .running }
        { p with status := .running, console := { p.console with clears := p.console.clears + 1 } } :=
      { h with status := rfl }
    exact begun.advance sound hproper rfl
  | running => exact h.advance sound hproper hstatus
  | finished => exact halted
  | failed => exact halted

/-- **They stay in agreement over any number of steps.** -/
theorem Mirrors.after (hproper : program.Proper r.place) (n : Nat) :
    Mirrors program (r.after program n) (p.after program.lower Scripted.console n) ∧
      program.Proper (r.after program n).place := by
  induction n generalizing r p with
  | zero => exact ⟨h, hproper⟩
  | succ n ih =>
    have follows := h.step sound hproper
    exact ih follows.mirrors follows.proper

end Steps

theorem mirrors_start (program : Program) (inputs : List String) (debug : Bool) :
    Mirrors program (start inputs) (Performance.start program.lower (Scripted.ofInputs inputs debug)) where
  memory := rfl
  stage := rfl
  declared := fun _ hid => absurd hid List.not_mem_nil
  flag := rfl
  position := rfl
  status := rfl
  inputs := rfl
  printed := rfl

/-- **Compiling keeps the meaning of a program.** Let a program have a script. A rehearsal of the program and a
performance of the script on the same inputs run in lockstep: after any number of steps the characters hold the same,
the stage, the flag and the status are the same, both are at the same place, the same inputs are left and the same was
printed; and the next step of one answers as that of the other, a fault at the same place and with the same error. So
the rehearsal never meets a jump that leads nowhere. -/
theorem perform_compiled {program : Program} {script : Script} (hcompile : program.compile = .ok script)
    (inputs : List String) (debug : Bool) (n : Nat) :
    let r := (start inputs).after program n
    let p := (Performance.start script (Scripted.ofInputs inputs debug)).after script Scripted.console n
    Mirrors program r p ∧ positioned program (r.step program).1 = faulted (p.step script Scripted.console).1 := by
  obtain ⟨hdefects, rfl⟩ := Program.compile_eq_ok_iff.1 hcompile
  have sound := (Program.defects_eq_nil_iff program).1 hdefects
  obtain ⟨mirrors, proper⟩ := (mirrors_start program inputs debug).after sound (Program.proper_opening 0 0) n
  exact ⟨mirrors, (mirrors.step sound proper).answer⟩

/-- one character is told the numbers that are read and says them, until one is not positive; an act, a scene and a
speech are empty -/
def pacing : Program where
  title := "Pacing"
  characters := [⟨⟨"walker"⟩, "who counts the steps"⟩, ⟨⟨"watch"⟩, "who is listened to"⟩]
  acts := [
    ⟨"Nobody", []⟩,
    ⟨"The walk", [
      ⟨"Silence", [.speech ⟨"watch"⟩ []]⟩,
      ⟨"Entrance", [.direction (.enter [⟨"walker"⟩, ⟨"watch"⟩])]⟩,
      ⟨"A lap", [
        .speech ⟨"watch"⟩ [.input .integer, .compare ⟨.greater, false, .character ⟨"walker"⟩, .constant 0⟩],
        .speech ⟨"watch"⟩ [.conditional false (.jump ⟨some 3, 1⟩), .output .integer, .jump ⟨none, 3⟩]]⟩]⟩,
    ⟨"The end", [⟨"Nothing", []⟩]⟩]

theorem perform_compiled_pacing :
    ∃ script, pacing.compile = .ok script ∧ ∀ (inputs : List String) (debug : Bool) (n : Nat),
      let r := (start inputs).after pacing n
      let p := (Performance.start script (Scripted.ofInputs inputs debug)).after script Scripted.console n
      Mirrors pacing r p ∧ positioned pacing (r.step pacing).1 = faulted (p.step script Scripted.console).1 := by
  have hcompile : pacing.compile = .ok pacing.lower := rfl
  exact ⟨pacing.lower, hcompile, fun inputs debug n => perform_compiled hcompile inputs debug n⟩

example : ((start ["2", "0"]).after pacing 10).printed = ["2"] ∧
    ((start ["2", "0"]).after pacing 10).status = .finished := by decide +kernel

end Rehearsal

end Playscript
