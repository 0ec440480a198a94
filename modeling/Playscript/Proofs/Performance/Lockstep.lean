/-
Performances step by step.

- `after`: a performance after a number of steps;
- `Alike`: two performances on scripted consoles agree in everything but the reports;
- `step_told`: one step of a script and of its like, from performances that are alike, gives like answers and
  performances that are alike again;
- `lockstep_told`: hence they stay alike over any number of steps.
-/
import Playscript.Proofs.Performance.Renaming

namespace Playscript

namespace Performance

/-- the performance after some steps, whatever they answer -/
def after {σ : Type} (script : Script) (console : Console σ) : Nat → Performance σ → Performance σ
  | 0, p => p
  | n + 1, p => after script console n (p.step script console).2

/-- two performances agree in everything but what was reported -/
structure Alike (p q : Performance Scripted) : Prop where
  memory : q.memory = p.memory
  stage : q.stage = p.stage
  flag : q.flag = p.flag
  position : q.position = p.position
  status : q.status = p.status
  inputs : q.console.inputs = p.console.inputs
  printed : q.console.printed = p.console.printed
  debug : q.console.debug = p.console.debug
  clears : q.console.clears = p.console.clears

theorem alike_withReports (p : Performance Scripted) (reports : List String) : p.Alike (p.withReports reports) :=
  ⟨rfl, rfl, rfl, rfl, rfl, rfl, rfl, rfl, rfl⟩

theorem alike_iff {p q : Performance Scripted} : p.Alike q ↔ ∃ reports, q = p.withReports reports := by
  constructor
  · intro h
    obtain ⟨memory, stage, flag, position, status, inputs, printed, debug, reports, clears⟩ := q
    obtain ⟨rfl, rfl, rfl, rfl, rfl, hi, hp, hd, hc⟩ := h
    simp only at hi hp hd hc
    subst hi hp hd hc
    exact ⟨reports, rfl⟩
  · rintro ⟨reports, rfl⟩
    exact alike_withReports p reports

theorem Alike.symm {p q : Performance Scripted} (h : p.Alike q) : q.Alike p := by
  obtain ⟨reports, rfl⟩ := alike_iff.1 h
  exact alike_iff.2 ⟨p.console.reports, rfl⟩

theorem Alike.trans {p q r : Performance Scripted} (hpq : p.Alike q) (hqr : q.Alike r) : p.Alike r := by
  obtain ⟨reports, rfl⟩ := alike_iff.1 hpq
  obtain ⟨others, rfl⟩ := alike_iff.1 hqr
  exact alike_iff.2 ⟨others, rfl⟩

section Told

variable {f : Ident → Ident} {script told : Script} (ht : script.Told f told)
include ht

/-- the same operation comes next, up to its like -/
theorem operation_told (i : Nat) :
    (script.operations[i]? = none ∧ told.operations[i]? = none) ∨
      ∃ operation operation', script.operations[i]? = some operation ∧ told.operations[i]? = some operation' ∧
        operation.Told script operation' := by
  have hlength := ht.operations.length_eq
  by_cases hi : i < script.operations.length
  · have hi' : i < told.operations.length := hlength ▸ hi
    exact .inr ⟨_, _, List.getElem?_eq_getElem hi, List.getElem?_eq_getElem hi', ht.operations.get hi hi'⟩
  · exact .inl ⟨List.getElem?_eq_none (by omega), List.getElem?_eq_none (by omega)⟩

/-- one outcome is as the other, but for names in faults and for reports -/
def Follows (f : Ident → Ident) (outcome outcome' : Except Fault Bool × Performance Scripted) : Prop :=
  outcome'.1 = outcome.1.mapError (Fault.rename f) ∧ outcome.2.Alike outcome'.2

omit ht in
/-- a report changes nothing but the reports -/
theorem reported_alike (script : Script) (p : Performance Scripted) (action : Action) :
    (p.reported script Scripted.console action).1 = .ok true ∧
      p.Alike (p.reported script Scripted.console action).2 := by
  unfold reported
  split
  · exact ⟨rfl, alike_withReports p _⟩
  · exact ⟨rfl, alike_withReports p p.console.reports⟩

omit ht in
theorem follow_steady {p : Performance Scripted} (hp : p.Steady script) (flow : Flow) :
    (p.follow flow).Steady script := by
  cases flow <;> exact hp

/-- the next operation and its like have like outcomes -/
theorem advance_told {p q : Performance Scripted} (hp : p.Steady script) (h : p.Alike q) :
    Follows f (p.advance script Scripted.console) (q.advance told Scripted.console) ∧
      (p.advance script Scripted.console).2.Steady script := by
  obtain ⟨reports, rfl⟩ := alike_iff.1 h
  have settled : told.settle p.position = script.settle p.position := by rw [Script.settle, Script.settle, ht.acts]
  have settledQ : told.settle (p.withReports reports).position = script.settle p.position := settled
  unfold advance
  rw [settledQ]
  rcases script.settle p.position with ⟨position, index⟩
  dsimp only
  let next : Performance Scripted := { p with position := position }
  have hnext : next.Steady script := hp
  cases index with
  | none => exact ⟨⟨rfl, alike_withReports _ _⟩, hp⟩
  | some i =>
    simp only [Option.bind_some]
    rcases operation_told ht i with ⟨hnone, hnone'⟩ | ⟨operation, operation', hop, hop', hlike⟩
    · rw [hnone, hnone']
      exact ⟨⟨rfl, alike_withReports _ _⟩, hp⟩
    · rw [hop, hop']
      have executed : ({ p.withReports reports with position := position } : Performance Scripted).execute told
          Scripted.console operation' = reworded f reports (next.execute script Scripted.console operation) :=
        execute_told ht reports next hnext hlike
      have steady := execute_steady Scripted.console hnext hlike
      simp only [executed, reworded]
      rcases hexecute : next.execute script Scripted.console operation with ⟨answer, later⟩
      rw [hexecute] at steady
      cases answer with
      | error cause => exact ⟨⟨rfl, alike_withReports _ _⟩, steady⟩
      | ok flow =>
        obtain ⟨hp, halike⟩ := reported_alike script (later.follow flow) operation.action
        obtain ⟨hq, halike'⟩ := reported_alike told ((later.withReports reports).follow flow) operation'.action
        have followed : (later.follow flow).Alike ((later.withReports reports).follow flow) := by
          cases flow <;> exact alike_withReports _ reports
        refine ⟨⟨?_, (halike.symm.trans followed).trans halike'⟩, ?_⟩
        · exact hq.trans (congrArg (Except.mapError (Fault.rename f)) hp.symm)
        · have hstage := halike.stage
          exact fun c hc => follow_steady steady flow c (hstage ▸ hc)

/-- **One step keeps performances alike**, and answers alike. -/
theorem step_told {p q : Performance Scripted} (hp : p.Steady script) (h : p.Alike q) :
    Follows f (p.step script Scripted.console) (q.step told Scripted.console) ∧
      (p.step script Scripted.console).2.Steady script := by
  obtain ⟨reports, rfl⟩ := alike_iff.1 h
  have status : (p.withReports reports).status = p.status := rfl
  unfold step
  rw [status]
  cases p.status with
  | finished => exact ⟨⟨rfl, alike_withReports _ _⟩, hp⟩
  | failed => exact ⟨⟨rfl, alike_withReports _ _⟩, hp⟩
  | running => exact advance_told ht hp h
  | ready =>
    let cleared : Performance Scripted :=
      { p with status := .running, console := { p.console with clears := p.console.clears + 1 } }
    have hcleared : cleared.Steady script := hp
    exact advance_told ht hcleared (alike_withReports cleared reports)

/-- **Scripts that are alike perform in lockstep** from performances that are alike. -/
theorem lockstep_told {p q : Performance Scripted} (hp : p.Steady script) (h : p.Alike q) (n : Nat) :
    (p.after script Scripted.console n).Steady script ∧
      (p.after script Scripted.console n).Alike (q.after told Scripted.console n) := by
  induction n generalizing p q with
  | zero => exact ⟨hp, h⟩
  | succ n ih =>
    obtain ⟨⟨-, halike⟩, hsteady⟩ := step_told ht hp h
    exact ih hsteady halike

end Told

end Performance

end Playscript
