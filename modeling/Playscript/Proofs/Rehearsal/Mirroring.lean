/-
A rehearsal of a program and a performance of its script side by side.

- `Mirrors`: they agree in everything, the one knowing characters by identifier and the other by number;
- `Mirrors.evaluate`: so values are worth the same in both;
- `Mirrors.cue`: a cue and its operation have the same outcome, and the two agree again.
-/
import Playscript.Proofs.Rehearsal.Interpreter
import Playscript.Proofs.Rehearsal.Lowering

namespace Playscript

namespace Rehearsal

/-- a rehearsal and a performance agree in everything but the way they know characters and places -/
structure Mirrors (program : Program) (r : Rehearsal) (p : Performance Scripted) : Prop where
  memory : p.memory = program.declared.map r.memory
  stage : p.stage = r.stage.map (numberOf program.declared)
  declared : ∀ id ∈ r.stage, id ∈ program.declared
  flag : p.flag = r.flag
  position : p.position = program.positionOf r.place
  status : p.status = r.status
  inputs : p.console.inputs = r.inputs
  printed : p.console.printed = r.printed

/-- a cue played at `place` has the outcome of an operation -/
structure Echoes (program : Program) (place : Place) (outcome : Outcome)
    (outcome' : Except RuntimeError Flow × Performance Scripted) : Prop where
  answer : outcome.1 = outcome'.1.mapError .runtime
  mirrors : Mirrors program outcome.2 outcome'.2
  place : outcome.2.place = place

/-! ## Numbers -/

theorem numberOf_inj {characters : List Ident} {a b : Ident} (ha : a ∈ characters) :
    numberOf characters a = numberOf characters b ↔ a = b := List.idxOf_inj ha

theorem numberOf_mem {characters ids : List Ident} (hids : ∀ id ∈ ids, id ∈ characters) {id : Ident} :
    numberOf characters id ∈ ids.map (numberOf characters) ↔ id ∈ ids := by
  constructor
  · intro h
    obtain ⟨other, ho, heq⟩ := List.mem_map.1 h
    exact (numberOf_inj (hids other ho)).1 heq ▸ ho
  · exact List.mem_map_of_mem

theorem numberOf_erase {characters ids : List Ident} (hids : ∀ id ∈ ids, id ∈ characters) (id : Ident) :
    (ids.map (numberOf characters)).erase (numberOf characters id) = (ids.erase id).map (numberOf characters) := by
  induction ids with
  | nil => rfl
  | cons first rest ih =>
    have hfirst := hids first List.mem_cons_self
    rw [List.map_cons, List.erase_cons, List.erase_cons, ih fun id hid => hids id (List.mem_cons_of_mem _ hid)]
    by_cases h : first = id
    · simp [h]
    · have hn : numberOf characters first ≠ numberOf characters id := fun hn => h ((numberOf_inj hfirst).1 hn)
      simp [h, hn]

theorem numberOf_filter {characters ids : List Ident} (hids : ∀ id ∈ ids, id ∈ characters) (id : Ident) :
    (ids.map (numberOf characters)).filter (· != numberOf characters id) =
      (ids.filter (· != id)).map (numberOf characters) := by
  rw [List.filter_map]
  congr 1
  refine List.filter_congr fun other ho => ?_
  rw [Function.comp_apply, Bool.eq_iff_iff, bne_iff_ne, bne_iff_ne, Ne, Ne, numberOf_inj (hids other ho)]

theorem nameOf_numberOf {program : Program} {id : Ident} (h : id ∈ program.declared) :
    program.lower.nameOf (numberOf program.declared id) = id := by
  show program.declared.getD (program.declared.idxOf id) ⟨""⟩ = id
  rw [List.getD_eq_getElem?_getD, List.getElem?_idxOf h, Option.getD_some]

section Mirrors

variable {program : Program} {r : Rehearsal} {p : Performance Scripted} (h : Mirrors program r p)
include h

theorem Mirrors.memoryAt {id : Ident} (hid : id ∈ program.declared) :
    p.memoryAt (numberOf program.declared id) = r.memory id := by
  rw [Performance.memoryAt, h.memory, numberOf, List.getD_eq_getElem?_getD, List.getElem?_map,
    List.getElem?_idxOf hid, Option.map_some, Option.getD_some]

theorem Mirrors.mem_stage {id : Ident} : numberOf program.declared id ∈ p.stage ↔ id ∈ r.stage := by
  rw [h.stage, numberOf_mem h.declared]

/-! ## Values -/

theorem Mirrors.valueAt {id : Ident} (hid : id ∈ program.declared) :
    p.valueAt program.lower (numberOf program.declared id) = r.valueOf id := by
  rw [Performance.valueAt, h.memoryAt hid, nameOf_numberOf hid]
  rfl

theorem Mirrors.addressee {speaker : Ident} (hs : speaker ∈ program.declared) :
    p.addressee program.lower (numberOf program.declared speaker) =
      (r.addressee speaker).map (numberOf program.declared) := by
  rw [Performance.addressee, h.stage, numberOf_filter h.declared, nameOf_numberOf hs, Rehearsal.addressee]
  rcases r.stage.filter (· != speaker) with _ | ⟨other, _ | ⟨next, rest⟩⟩
  · rfl
  · rfl
  · simp [Except.map]

omit h in
theorem mem_stage_of_addressee {speaker other : Ident} (ho : r.addressee speaker = .ok other) : other ∈ r.stage := by
  unfold Rehearsal.addressee at ho
  split at ho
  · cases ho
  · rename_i heq
    cases ho
    exact (List.mem_filter.1 (heq ▸ List.mem_singleton_self _)).1
  · cases ho

/-- **A value is worth the same** in a rehearsal and in a performance that agree. -/
theorem Mirrors.evaluate {speaker : Ident} (hs : speaker ∈ program.declared) {value : Value}
    (hvalue : ∀ id ∈ value.mentions, id ∈ program.declared) :
    p.evaluate program.lower (numberOf program.declared speaker) (Operand.ofValue program.declared value) =
      r.evaluate speaker value := by
  induction value with
  | constant n => rfl
  | binary op lhs rhs ihl ihr =>
    rw [Operand.ofValue, Performance.evaluate, Rehearsal.evaluate,
      ihl fun id hid => hvalue id (List.mem_append_left _ hid), ihr fun id hid => hvalue id (List.mem_append_right _ hid)]
  | unary op operand ih => rw [Operand.ofValue, Performance.evaluate, Rehearsal.evaluate, ih hvalue]
  | character id => exact h.valueAt (hvalue id (List.mem_singleton_self id))
  | role role =>
    cases role with
    | speaker => exact h.valueAt hs
    | addressee =>
      rw [Operand.ofValue, Performance.evaluate, Rehearsal.evaluate, h.addressee hs]
      cases hother : r.addressee speaker with
      | error error => rfl
      | ok other => exact h.valueAt (h.declared other (mem_stage_of_addressee hother))

/-! ## Changes -/

theorem Mirrors.hold (nodup : program.declared.Nodup) (id : Ident) (memory : Memory) :
    Mirrors program (r.hold id memory) (p.setMemory (numberOf program.declared id) memory) := by
  refine { h with memory := ?_ }
  show p.memory.set (program.declared.idxOf id) memory = program.declared.map (r.hold id memory).memory
  rw [h.memory]
  refine List.ext_getElem (by simp) fun i hi hi' => ?_
  rw [List.getElem_set, List.getElem_map, List.getElem_map]
  have hlt : i < program.declared.length := by simpa using hi'
  by_cases heq : program.declared.idxOf id = i
  · subst heq
    simp [Rehearsal.hold]
  · have hne : program.declared[i] ≠ id := fun hget => heq (by rw [← hget, nodup.idxOf_getElem i hlt])
    rw [if_neg heq]
    simp [Rehearsal.hold, hne]

theorem Mirrors.stop (error : RuntimeError) : Echoes program r.place (r.stop error) (.error error, p) := ⟨rfl, h, rfl⟩

theorem Mirrors.given_same {α : Type} {answer : Except RuntimeError α} {proceed : α → Outcome}
    {proceed' : α → Except RuntimeError Flow × Performance Scripted}
    (hproceed : ∀ a, Echoes program r.place (proceed a) (proceed' a)) :
    Echoes program r.place (r.given answer proceed) (p.given answer proceed') := by
  cases answer with
  | error error => exact h.stop error
  | ok a => exact hproceed a

theorem Mirrors.given {α β : Type} (g : α → β) {answer : Except RuntimeError α} {answer' : Except RuntimeError β}
    (hanswer : answer' = answer.map g) {proceed : α → Outcome}
    {proceed' : β → Except RuntimeError Flow × Performance Scripted}
    (hproceed : ∀ a, answer = .ok a → Echoes program r.place (proceed a) (proceed' (g a))) :
    Echoes program r.place (r.given answer proceed) (p.given answer' proceed') := by
  rw [hanswer]
  cases answer with
  | error error => exact h.stop error
  | ok a => exact hproceed a rfl

/-! ## Directions -/

theorem Mirrors.enter {ids : List Ident} (hids : ∀ id ∈ ids, id ∈ program.declared) :
    Echoes program r.place (r.enter ids) (p.enter program.lower (ids.map (numberOf program.declared))) := by
  induction ids generalizing r p with
  | nil => exact ⟨rfl, h, rfl⟩
  | cons id rest ih =>
    have hid := hids id List.mem_cons_self
    rw [List.map_cons, Rehearsal.enter, Performance.enter]
    by_cases hstage : id ∈ r.stage
    · rw [if_pos hstage, if_pos (h.mem_stage.2 hstage), nameOf_numberOf hid]
      exact h.stop _
    · rw [if_neg hstage, if_neg fun hmem => hstage (h.mem_stage.1 hmem)]
      have entered : Mirrors program { r with stage := r.stage ++ [id] }
          { p with stage := p.stage ++ [numberOf program.declared id] } := by
        refine { h with stage := by simp [h.stage], declared := fun other ho => ?_ }
        rcases List.mem_append.1 ho with ho | ho
        · exact h.declared other ho
        · exact List.mem_singleton.1 ho ▸ hid
      exact ih entered fun id hid => hids id (List.mem_cons_of_mem _ hid)

theorem Mirrors.leave {ids : List Ident} (hids : ∀ id ∈ ids, id ∈ program.declared) :
    Echoes program r.place (r.leave ids) (p.leave program.lower (ids.map (numberOf program.declared))) := by
  induction ids generalizing r p with
  | nil => exact ⟨rfl, h, rfl⟩
  | cons id rest ih =>
    rw [List.map_cons, Rehearsal.leave, Performance.leave]
    by_cases hstage : id ∈ r.stage
    · rw [if_pos hstage, if_pos (h.mem_stage.2 hstage)]
      have left : Mirrors program { r with stage := r.stage.erase id }
          { p with stage := p.stage.erase (numberOf program.declared id) } :=
        { h with
          stage := by rw [h.stage, numberOf_erase h.declared]
          declared := fun other ho => h.declared other (List.mem_of_mem_erase ho) }
      exact ih left fun id hid => hids id (List.mem_cons_of_mem _ hid)
    · rw [if_neg hstage, if_neg fun hmem => hstage (h.mem_stage.1 hmem), nameOf_numberOf (hids id List.mem_cons_self)]
      exact h.stop _

theorem Mirrors.direction {d : StageDirection} (hd : ∀ id ∈ d.mentions, id ∈ program.declared) :
    Echoes program r.place (r.play program (.direction d))
      (p.direct program.lower (Action.ofDirection program.declared d)) := by
  cases d with
  | enter ids => exact h.enter hd
  | exit id => exact @Mirrors.leave _ _ _ h [id] hd
  | exeunt ids =>
    cases ids with
    | nil => exact ⟨rfl, { h with stage := rfl, declared := fun _ hid => absurd hid List.not_mem_nil }, rfl⟩
    | cons id rest => exact h.leave hd

/-! ## Statements -/

omit h in
theorem destination?_eq {act : Nat} {target : JumpTarget} (hleads : program.Leads (act + 1) (.scene target)) :
    program.destination? act target = some (target.act.getD (act + 1) - 1, target.scene - 1) := by
  obtain ⟨i, j, hact, hscene, scenes, hscenes, hlt⟩ := hleads
  simp [Program.destination?, hact, hscene, hscenes, hlt]

omit h in
theorem readFrom_scripted (channel : Channel) (state : Scripted) :
    Performance.readFrom Scripted.console channel state =
      match state.inputs with
      | [] => (.error .noInput, state)
      | input :: inputs => (.ok input, { state with inputs := inputs }) := by
  cases channel <;> rfl

section Speaking

variable {speaker : Ident} (hs : speaker ∈ program.declared)
include hs

/-- whoever speaks must be on stage -/
theorem Mirrors.present {proceed : Outcome} {guard : Option Bool} {action : Action}
    (hproceed : Echoes program r.place proceed
      (p.act program.lower Scripted.console (numberOf program.declared speaker) action)) :
    Echoes program r.place (r.present speaker proceed)
      (p.unguarded program.lower Scripted.console ⟨some (numberOf program.declared speaker), guard, action⟩) := by
  unfold Rehearsal.present Performance.unguarded
  by_cases hstage : speaker ∈ r.stage
  · simpa only [if_pos hstage, if_pos (h.mem_stage.2 hstage)] using hproceed
  · simp only [if_neg hstage, if_neg fun hmem => hstage (h.mem_stage.1 hmem), nameOf_numberOf hs]
    exact h.stop _

theorem Mirrors.evaluated {value : Value} (hvalue : ∀ id ∈ value.mentions, id ∈ program.declared)
    {proceed : Int64 → Outcome} {proceed' : Int64 → Except RuntimeError Flow × Performance Scripted}
    (hproceed : ∀ n, Echoes program r.place (proceed n) (proceed' n)) :
    Echoes program r.place (r.given (r.evaluate speaker value) proceed)
      (p.given (p.evaluate program.lower (numberOf program.declared speaker) (Operand.ofValue program.declared value))
        proceed') := by
  rw [h.evaluate hs hvalue]
  exact h.given_same hproceed

theorem Mirrors.addressed {proceed : Ident → Outcome} {proceed' : Nat → Except RuntimeError Flow × Performance Scripted}
    (hproceed : ∀ other ∈ program.declared,
      Echoes program r.place (proceed other) (proceed' (numberOf program.declared other))) :
    Echoes program r.place (r.given (r.addressee speaker) proceed)
      (p.given (p.addressee program.lower (numberOf program.declared speaker)) proceed') :=
  h.given (numberOf program.declared) (h.addressee hs) fun other ho =>
    hproceed other (h.declared other (mem_stage_of_addressee ho))

variable (nodup : program.declared.Nodup)
include nodup

/-- a statement that is no conditional, and its action -/
theorem Mirrors.simple {s : Statement} (hmentions : ∀ id ∈ s.mentions, id ∈ program.declared)
    (hleads : ∀ reference ∈ s.references, program.Leads (r.place.act + 1) reference) {action : Action}
    (haction : Action.ofStatement? program.declared (r.place.act + 1) s = some action) (guard : Option Bool) :
    Echoes program r.place (r.speak program speaker s)
      (p.unguarded program.lower Scripted.console ⟨some (numberOf program.declared speaker), guard, action⟩) := by
  cases s with
  | conditional polarity body => cases haction
  | assign value =>
    cases haction
    refine h.present hs (h.evaluated hs hmentions fun n => h.addressed hs fun other ho => ⟨rfl, ?_, rfl⟩)
    rw [← h.memoryAt ho]
    exact h.hold nodup other _
  | compare c =>
    cases haction
    refine h.present hs (h.evaluated hs (fun id hid => hmentions id (List.mem_append_left _ hid)) fun a => ?_)
    refine h.evaluated hs (fun id hid => hmentions id (List.mem_append_right _ hid)) fun b => ?_
    exact ⟨rfl, { h with flag := rfl }, rfl⟩
  | jump target =>
    cases haction
    refine h.present hs ?_
    rw [destination?_eq (hleads (.scene target) (List.mem_singleton_self _))]
    exact ⟨rfl, h, rfl⟩
  | input channel =>
    cases haction
    refine h.present hs (h.addressed hs fun other ho => ?_)
    dsimp only
    rw [readFrom_scripted, h.inputs]
    cases hinputs : r.inputs with
    | nil => exact h.stop _
    | cons input inputs =>
      have read : Mirrors program { r with inputs := inputs } { p with console := { p.console with inputs := inputs } } :=
        { h with inputs := rfl }
      refine read.given_same fun n => ⟨rfl, ?_, rfl⟩
      rw [← h.memoryAt ho]
      exact read.hold nodup other _
  | output channel =>
    cases haction
    refine h.present hs (h.addressed hs fun other ho => ?_)
    rw [h.valueAt ho]
    refine h.given_same fun n => h.given_same fun text => ?_
    exact ⟨rfl, { h with printed := congrArg (text :: ·) h.printed }, rfl⟩
  | remember value =>
    cases haction
    refine h.present hs (h.evaluated hs hmentions fun n => h.addressed hs fun other ho => ⟨rfl, ?_, rfl⟩)
    rw [← h.memoryAt ho]
    exact h.hold nodup other _
  | «recall» =>
    cases haction
    refine h.present hs (h.addressed hs fun other ho => ?_)
    unfold Performance.popStack
    rw [h.memoryAt ho, nameOf_numberOf ho]
    cases (r.memory other).stack with
    | nil => exact h.stop _
    | cons top rest => exact ⟨rfl, h.hold nodup other _, rfl⟩

/-- a statement and its operation -/
theorem Mirrors.statement {s : Statement} (hmentions : ∀ id ∈ s.mentions, id ∈ program.declared)
    (hleads : ∀ reference ∈ s.references, program.Leads (r.place.act + 1) reference) {operation : Operation}
    (hoperation : Operation.ofStatement? program.declared (r.place.act + 1) (numberOf program.declared speaker) s =
      some operation) :
    Echoes program r.place (r.speak program speaker s) (p.execute program.lower Scripted.console operation) := by
  have unguarded : ∀ {simple : Statement}, (∀ id ∈ simple.mentions, id ∈ program.declared) →
      (∀ reference ∈ simple.references, program.Leads (r.place.act + 1) reference) → ∀ {guard : Option Bool},
      (Action.ofStatement? program.declared (r.place.act + 1) simple).map
        (fun action => ⟨some (numberOf program.declared speaker), guard, action⟩) = some operation →
      operation.guard = guard ∧ Echoes program r.place (r.speak program speaker simple)
        (p.unguarded program.lower Scripted.console operation) := by
    intro simple hmentions hleads guard hsome
    obtain ⟨action, haction, rfl⟩ := Option.map_eq_some_iff.1 hsome
    exact ⟨rfl, h.simple hs nodup hmentions hleads haction guard⟩
  unfold Performance.execute
  cases s with
  | conditional polarity body =>
    -- a conditional of a conditional has no operation, so the body is simple and refers to the same by itself
    have hbody : ∀ reference ∈ body.references, program.Leads (r.place.act + 1) reference := by
      cases body with
      | conditional polarity' body => cases hoperation
      | _ => exact hleads
    obtain ⟨hguard, hechoes⟩ := @unguarded body hmentions hbody (some polarity) hoperation
    rw [hguard, Rehearsal.speak, h.flag]
    cases r.flag with
    | none => exact h.stop _
    | some flag =>
      by_cases hflag : flag = polarity
      · simpa only [if_pos hflag] using hechoes
      · simp only [if_neg hflag]
        exact ⟨rfl, h, rfl⟩
  | _ =>
    obtain ⟨hguard, hechoes⟩ := unguarded hmentions hleads hoperation
    rw [hguard]
    exact hechoes

end Speaking

/-! ## Cues -/

/-- **A cue and its operation have the same outcome**, and the rehearsal and the performance agree again. -/
theorem Mirrors.cue (sound : program.Sound) {cue : Cue} (hcued : program.Cued r.place cue) {operation : Operation}
    (hoperation : cue.operation? program.declared (r.place.act + 1) = some operation) :
    Echoes program r.place (r.play program cue) (p.execute program.lower Scripted.console operation) := by
  obtain ⟨line, hline, hmem⟩ := hcued.hasLine
  have declared := sound.line_mem hline
  cases cue with
  | direction d =>
    cases hoperation
    rw [Line.eq_of_direction_mem hmem] at declared
    exact h.direction declared
  | statement speaker s =>
    have hleads := sound.cue_leads hline hmem
    obtain ⟨statements, rfl, hs⟩ := Line.eq_of_statement_mem hmem
    have hmentions : ∀ id ∈ s.mentions, id ∈ program.declared := fun id hid =>
      declared id (Line.mem_mentions_of_mem hs hid)
    exact h.statement (declared speaker List.mem_cons_self) sound.nodup hmentions hleads hoperation

end Mirrors

end Rehearsal

end Playscript
