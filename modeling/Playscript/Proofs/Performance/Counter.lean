/-
The place of a performance as one number.

- `Script.counter`: how many operations stand before a position, in all earlier scenes and in its own;
- `Script.pass?`, `Script.Settles`: one move past a scene or an act that has nothing left, and such moves until there are
  none to make;
- `Denotes.settles`, `settle_eq`: settling comes to an end, keeps the counter, and finds the operation of that number;
- `step_counter`: a step runs that operation, and goes on to the next one or, for a jump that is carried out, to the first
  one of a scene (`Script.follower`);
- `played`, `played_chain`: so the operations of a run follow one another, whatever scenes and acts are empty.
-/
import Mathlib.Data.List.Chain
import Playscript.Proofs.Performance.Deciding
import Playscript.Proofs.Performance.Safety

namespace Playscript

/-! ## Tilings -/

theorem Tiles.split {start stop : Nat} {spans others : List Span} (h : Tiles start (spans ++ others) stop) :
    ∃ middle, Tiles start spans middle ∧ Tiles middle others stop := by
  induction spans generalizing start with
  | nil => exact ⟨start, rfl, h⟩
  | cons span rest ih =>
    obtain ⟨hstart, hle, hrest⟩ := h
    obtain ⟨middle, hspans, hothers⟩ := ih hrest
    exact ⟨middle, ⟨hstart, hle, hspans⟩, hothers⟩

theorem Tiles.stop_eq {start stop : Nat} {spans : List Span} (h : Tiles start spans stop) :
    stop = start + (spans.map Span.length).sum := by
  induction spans generalizing start with
  | nil => exact Eq.symm h
  | cons span rest ih =>
    obtain ⟨rfl, hle, hrest⟩ := h
    have hlength : span.start + span.length = span.stop := Nat.add_sub_of_le hle
    rw [List.map_cons, List.sum_cons, ← Nat.add_assoc, hlength]
    exact ih hrest

/-- a span of a tiling starts where those before it have ended -/
theorem Tiles.start_eq {start stop : Nat} {before after : List Span} {span : Span}
    (h : Tiles start (before ++ span :: after) stop) : span.start = start + (before.map Span.length).sum := by
  obtain ⟨middle, hbefore, hspan, -⟩ := h.split
  exact hspan.trans hbefore.stop_eq

namespace Script

variable (script : Script)

/-! ## Positions -/

/-- the spans of the scenes that come before a scene in play order -/
def earlier (act scene : Nat) : List Span := (script.acts.take act).flatten ++ ((script.acts[act]?).getD []).take scene

/-- how many operations come before a position: those of all earlier scenes, and those before it in its own -/
def counter (position : Position) : Nat :=
  ((script.earlier position.act position.scene).map Span.length).sum + position.line

/-- one move past a scene or an act that has nothing left; there is none from an operation, nor past the last act -/
def pass? (position : Position) : Option Position :=
  match script.acts[position.act]? with
  | none => none
  | some spans =>
    match spans[position.scene]? with
    | none => some ⟨position.act + 1, 0, 0⟩
    | some span => if position.line < span.length then none else some ⟨position.act, position.scene + 1, 0⟩

/-- moving on as long as there is a move comes to an end at the second position -/
inductive Settles : Position → Position → Prop
  | stay {position : Position} : script.pass? position = none → Settles position position
  | pass {position next settled : Position} :
    script.pass? position = some next → Settles next settled → Settles position settled

/-- what is left to move past -/
def remaining (position : Position) : Nat :=
  ((script.acts.drop position.act).map fun spans => spans.length + 1).sum - position.scene

variable {script}

theorem earlier_succ {act scene : Nat} {span : Span} (hspan : script.spanAt? act scene = some span) :
    script.earlier act (scene + 1) = script.earlier act scene ++ [span] := by
  obtain ⟨spans, hspans, hspan⟩ := Option.bind_eq_some_iff.1 hspan
  obtain ⟨hlt, rfl⟩ := List.getElem?_eq_some_iff.1 hspan
  rw [earlier, earlier, hspans, Option.getD_some, List.take_succ_eq_append_getElem hlt, List.append_assoc]

theorem earlier_act {act : Nat} {spans : List Span} (hspans : script.acts[act]? = some spans) {scene : Nat}
    (hscene : spans.length ≤ scene) : script.earlier act scene = script.earlier (act + 1) 0 := by
  obtain ⟨hlt, rfl⟩ := List.getElem?_eq_some_iff.1 hspans
  rw [earlier, earlier, hspans, Option.getD_some, List.take_of_length_le hscene, List.take_zero, List.append_nil,
    List.take_succ_eq_append_getElem hlt, List.flatten_append, List.flatten_singleton]

theorem counter_line (act scene line : Nat) : script.counter ⟨act, scene, line⟩ = script.counter ⟨act, scene, 0⟩ + line :=
  rfl

/-- the end of a scene is the beginning of the next one -/
theorem counter_sceneEnd {act scene : Nat} {span : Span} (hspan : script.spanAt? act scene = some span) :
    script.counter ⟨act, scene + 1, 0⟩ = script.counter ⟨act, scene, span.length⟩ := by
  rw [counter, counter, earlier_succ hspan, List.map_append, List.sum_append]
  rfl

/-- the end of an act is the beginning of the next one -/
theorem counter_actEnd {act : Nat} {spans : List Span} (hspans : script.acts[act]? = some spans) :
    script.counter ⟨act + 1, 0, 0⟩ = script.counter ⟨act, spans.length, 0⟩ := by
  rw [counter, counter, earlier_act hspans (Nat.le_refl _)]

/-- all spans, cut at one of them -/
theorem flatten_acts {act scene : Nat} {span : Span} (hspan : script.spanAt? act scene = some span) :
    ∃ after, script.acts.flatten = script.earlier act scene ++ span :: after := by
  obtain ⟨spans, hspans, hspan⟩ := Option.bind_eq_some_iff.1 hspan
  obtain ⟨hact, rfl⟩ := List.getElem?_eq_some_iff.1 hspans
  obtain ⟨hscene, rfl⟩ := List.getElem?_eq_some_iff.1 hspan
  refine ⟨script.acts[act].drop (scene + 1) ++ (script.acts.drop (act + 1)).flatten, ?_⟩
  rw [earlier, hspans, Option.getD_some, List.append_assoc, ← List.cons_append, ← List.drop_eq_getElem_cons hscene,
    ← List.append_assoc (List.take _ _), List.take_append_drop, ← List.flatten_cons, ← List.drop_eq_getElem_cons hact,
    ← List.flatten_append, List.take_append_drop]

namespace WellFormed

variable (formed : script.WellFormed)
include formed

/-- the counter of an operation is its number -/
theorem counter_eq {position : Position} {span : Span}
    (hspan : script.spanAt? position.act position.scene = some span) :
    script.counter position = span.start + position.line := by
  obtain ⟨after, hafter⟩ := flatten_acts hspan
  have tiled := formed.tiled
  rw [hafter] at tiled
  rw [counter, tiled.start_eq, Nat.zero_add]

theorem counter_ended : script.counter ⟨script.acts.length, 0, 0⟩ = script.operations.length := by
  rw [formed.tiled.stop_eq, counter, earlier, List.take_zero, List.append_nil, List.take_length, Nat.zero_add]
  rfl

end WellFormed

/-! ## Settling -/

theorem pass?_sceneEnd {act scene line : Nat} {span : Span} (hspan : script.spanAt? act scene = some span)
    (hline : span.length ≤ line) : script.pass? ⟨act, scene, line⟩ = some ⟨act, scene + 1, 0⟩ := by
  obtain ⟨spans, hspans, hspan⟩ := Option.bind_eq_some_iff.1 hspan
  simp only [pass?, hspans, hspan, if_neg (Nat.not_lt.2 hline)]

theorem pass?_actEnd {act scene line : Nat} {spans : List Span} (hspans : script.acts[act]? = some spans)
    (hscene : spans.length ≤ scene) : script.pass? ⟨act, scene, line⟩ = some ⟨act + 1, 0, 0⟩ := by
  simp only [pass?, hspans, List.getElem?_eq_none hscene]

theorem pass?_operation {position : Position} {span : Span}
    (hspan : script.spanAt? position.act position.scene = some span) (hline : position.line < span.length) :
    script.pass? position = none := by
  obtain ⟨spans, hspans, hspan⟩ := Option.bind_eq_some_iff.1 hspan
  simp only [pass?, hspans, hspan, if_pos hline]

theorem pass?_ended : script.pass? ⟨script.acts.length, 0, 0⟩ = none := by
  simp only [pass?, List.getElem?_eq_none (Nat.le_refl _)]

/-- everything that a move does: it leaves the end of a scene or of an act, keeps the counter, and leaves less to move
past -/
theorem Denotes.pass? {position next : Position} (h : script.Denotes position) (hpass : script.pass? position = some next) :
    script.Denotes next ∧ script.counter next = script.counter position ∧
      script.settle next = script.settle position ∧ script.remaining next < script.remaining position := by
  cases h with
  | ended => rw [pass?_ended] at hpass; cases hpass
  | operation hspan hline => rw [pass?_operation hspan hline] at hpass; cases hpass
  | @actEnd act spans hspans =>
    rw [pass?_actEnd hspans (Nat.le_refl _)] at hpass
    cases hpass
    obtain ⟨hlt, rfl⟩ := List.getElem?_eq_some_iff.1 hspans
    have cut := List.drop_eq_getElem_cons hlt
    refine ⟨denotes_opening hlt, counter_actEnd hspans, ?_, ?_⟩
    · simp only [settle, cut, seekAct, List.drop_length, seekScene]
    · simp only [remaining, cut, List.map_cons, List.sum_cons]
      omega
  | @sceneEnd act scene span hspan =>
    rw [pass?_sceneEnd hspan (Nat.le_refl _)] at hpass
    cases hpass
    have hcounter := counter_sceneEnd hspan
    obtain ⟨spans, hspans, hspan'⟩ := Option.bind_eq_some_iff.1 hspan
    obtain ⟨hlt, rfl⟩ := List.getElem?_eq_some_iff.1 hspans
    obtain ⟨hscene, rfl⟩ := List.getElem?_eq_some_iff.1 hspan'
    have cut := List.drop_eq_getElem_cons hlt
    refine ⟨?_, hcounter, ?_, ?_⟩
    · rcases Nat.lt_or_eq_of_le hscene with hnext | hnext
      · exact denotes_of_le (spanAt?_eq_some hspans (List.getElem?_eq_getElem hnext)) (Nat.zero_le _)
      · have hend : scene + 1 = _ := hnext
        rw [hend]
        exact .actEnd hspans
    · simp only [settle, cut, seekAct, List.drop_eq_getElem_cons hscene, seekScene, Nat.lt_irrefl, if_false]
    · simp only [remaining, cut, List.map_cons, List.sum_cons]
      omega

/-- where there is no move to make, settling stays -/
theorem Denotes.settle_of_pass? {position : Position} (h : script.Denotes position) (hpass : script.pass? position = none) :
    (script.settle position).1 = position := by
  cases h with
  | ended => simp only [settle, List.drop_length, seekAct]
  | actEnd hspans => rw [pass?_actEnd hspans (Nat.le_refl _)] at hpass; cases hpass
  | sceneEnd hspan => rw [pass?_sceneEnd hspan (Nat.le_refl _)] at hpass; cases hpass
  | operation hspan hline =>
    obtain ⟨spans, hspans, hspan'⟩ := Option.bind_eq_some_iff.1 hspan
    obtain ⟨hlt, rfl⟩ := List.getElem?_eq_some_iff.1 hspans
    obtain ⟨hscene, rfl⟩ := List.getElem?_eq_some_iff.1 hspan'
    simp only [settle, List.drop_eq_getElem_cons hlt, seekAct, List.drop_eq_getElem_cons hscene, seekScene, if_pos hline]

/-- **Settling is moving on as long as there is a move**, which comes to an end. -/
theorem Denotes.settles {position : Position} (h : script.Denotes position) :
    script.Settles position (script.settle position).1 := by
  induction hleft : script.remaining position using Nat.strong_induction_on generalizing position with
  | _ left ih =>
    cases hpass : script.pass? position with
    | none => exact (h.settle_of_pass? hpass).symm ▸ .stay hpass
    | some next =>
      obtain ⟨hnext, -, hsettle, hless⟩ := h.pass? hpass
      exact hsettle ▸ .pass hpass (ih _ (hleft ▸ hless) hnext rfl)

/-- moves keep the counter -/
theorem Settles.counter {position settled : Position} (h : script.Settles position settled)
    (hposition : script.Denotes position) : script.counter settled = script.counter position := by
  induction h with
  | stay => rfl
  | pass hpass _ ih =>
    obtain ⟨hnext, hcounter, -⟩ := hposition.pass? hpass
    exact (ih hnext).trans hcounter

/-- **Settling finds the operation that the counter counts to**, or the end if there are no more. -/
theorem Denotes.settle_eq {position : Position} (h : script.Denotes position) (formed : script.WellFormed) :
    script.settle position = ((script.settle position).1,
      if script.counter position < script.operations.length then some (script.counter position) else none) := by
  have hcounter := h.settles.counter h
  rcases script.settle_cases position with hend | ⟨settled, span, hsettle, hspan, hline, -⟩
  · rw [hend, formed.counter_ended] at hcounter
    rw [hend, if_neg (Nat.not_lt.2 (Nat.le_of_eq hcounter))]
  · rw [hsettle, formed.counter_eq hspan] at hcounter
    rw [hsettle, ← hcounter, if_pos (formed.number_lt hspan hline)]

theorem Denotes.counter_le {position : Position} (h : script.Denotes position) (formed : script.WellFormed) :
    script.counter position ≤ script.operations.length := by
  rw [← h.settles.counter h]
  rcases script.settle_cases position with hend | ⟨settled, span, hsettle, hspan, hline, -⟩
  · rw [hend]
    exact Nat.le_of_eq formed.counter_ended
  · rw [hsettle, formed.counter_eq hspan]
    exact Nat.le_of_lt (formed.number_lt hspan hline)

end Script

/-! ## Operations -/

/-- the way on from an action that is carried out -/
def Action.flow : Action → Flow
  | .jump act scene => .jump act scene
  | _ => .next

/-- the counter after an operation: that of the first operation of a scene for a jump that its guard lets through, and
otherwise the next one -/
def Script.follower (script : Script) (flag : Option Bool) (counter : Nat) (operation : Operation) : Nat :=
  match operation.allowed flag, operation.action.flow with
  | true, .jump act scene => script.counter ⟨act, scene, 0⟩
  | _, _ => counter + 1

/-- an operation can follow another, depending on the flag -/
def Script.Follows (script : Script) (n next : Nat) : Prop :=
  ∃ operation flag, script.operations[n]? = some operation ∧ next = script.follower flag n operation

/-- whatever nobody speaks is a direction -/
def Script.Spoken (script : Script) : Prop :=
  ∀ operation ∈ script.operations, operation.speaker = none → operation.action.isDirection = true

theorem Program.lower_spoken (program : Program) : program.lower.Spoken := by
  intro operation hmem hnobody
  obtain ⟨i, j, line, cue, -, -, hoperation⟩ := Program.Sound.mem_operations hmem
  cases cue with
  | direction d =>
    cases hoperation
    cases d <;> rfl
  | statement speaker s =>
    obtain ⟨-, action, -, -, ⟨-, rfl⟩ | ⟨polarity, -, rfl⟩⟩ := Operation.ofStatement?_cases hoperation
    · cases hnobody
    · cases hnobody

namespace Performance

variable {σ : Type} {script : Script} {console : Console σ} {p q : Performance σ} {operation : Operation} {way : Flow}

theorem Moves.flow {stage stage' : List Nat} {action : Action} (h : Moves script stage action (.ok way) stage') :
    way = action.flow := by
  cases h <;> rfl

theorem Effect.flow (h : Effect script console p operation (.ok way, q))
    (spoken : operation.speaker = none → operation.action.isDirection = true) : way = operation.action.flow := by
  cases h with
  | unspoken hnobody hdirection =>
    rw [spoken hnobody] at hdirection
    cases hdirection
  | moved hmoves => exact hmoves.flow
  | compared _ _ haction => rw [haction]; rfl
  | assigned _ haction => rw [haction]; rfl
  | jumped haction => rw [haction]; rfl
  | received _ haction => rw [haction]; rfl
  | printed _ haction => rw [haction]; rfl
  | pushed _ haction => rw [haction]; rfl
  | popped _ haction => rw [haction]; rfl

theorem skipped_flow (hallowed : operation.allowed p.flag = false)
    (hexecute : p.execute script console operation = (.ok way, q)) : way = .next := by
  unfold execute at hexecute
  unfold Operation.allowed at hallowed
  cases hguard : operation.guard with
  | none =>
    rw [hguard] at hallowed
    cases hallowed
  | some polarity =>
    rw [hguard] at hexecute hallowed
    cases hflag : p.flag with
    | none =>
      simp only [hflag] at hexecute
      cases hexecute
    | some flag =>
      rw [hflag, Option.all_some, decide_eq_false_iff_not] at hallowed
      simp only [hflag, if_neg fun h => hallowed (congrArg some h)] at hexecute
      cases hexecute
      rfl

/-- after an operation the performance is where its follower is -/
theorem counter_follow (hexecute : p.execute script console operation = (.ok way, q))
    (spoken : operation.speaker = none → operation.action.isDirection = true) :
    script.counter (q.follow way).position = script.follower p.flag (script.counter p.position) operation := by
  have next : way = .next → script.counter (q.follow way).position = script.counter p.position + 1 := by
    rintro rfl
    rw [← position_of_execute hexecute]
    rfl
  rcases @execute_effect _ script console p operation with ⟨hallowed, -⟩ | ⟨hallowed, heffect⟩
  · rw [next (skipped_flow hallowed hexecute), Script.follower, hallowed]
  · rw [hexecute] at heffect
    have hflow := heffect.flow spoken
    rw [Script.follower, hallowed, ← hflow]
    cases way with
    | next => exact next rfl
    | jump act scene => rfl

variable (script console) in
/-- a performance goes on where it is when it has been reported, unless the console fails -/
theorem reported_answers (p : Performance σ) (action : Action) :
    (∃ q, p.reported script console action = (.ok true, q) ∧ q.position = p.position) ∨
      ∃ fault q, p.reported script console action = (.error fault, q) := by
  unfold reported
  split
  · rcases console.report (p.reportOf script action) p.console with ⟨cause | _, state⟩
    · exact .inr ⟨_, _, rfl⟩
    · exact .inl ⟨_, rfl, rfl⟩
  · exact .inl ⟨_, rfl, rfl⟩

/-! ## Steps -/

variable (script console) in
/-- the number of the operation that the next step runs -/
def number? (p : Performance σ) : Option Nat := (p.begun? console).bind fun p => (script.settle p.position).2

/-- a step after which the performance goes on has run an operation -/
theorem performed_of_step (h : p.step script console = (.ok true, q)) :
    ∃ begun operation way r, p.next? script console = some (begun, operation) ∧
      begun.execute script console operation = (.ok way, r) ∧ q.position = (r.follow way).position := by
  have stepped := step_stepped script console p
  generalize houtcome : p.step script console = outcome at stepped
  rw [h] at houtcome
  cases stepped with
  | stuck => cases houtcome
  | uncleared => cases houtcome
  | ended => cases houtcome
  | faulted => cases houtcome
  | @performed begun r operation way hnext hexecute =>
    rcases reported_answers script console (r.follow way) operation.action with
      ⟨told, htold, hposition⟩ | ⟨fault, failed, hfailed⟩
    · cases houtcome.trans htold
      exact ⟨begun, operation, way, r, hnext, hexecute, hposition⟩
    · cases houtcome.trans hfailed

/-- a step that ends a performance has found no operation -/
theorem ended_of_step (h : p.step script console = (.ok false, q)) :
    ∃ begun, p.begun? console = some begun ∧ p.next? script console = none ∧
      q.position = (script.settle p.position).1 := by
  have stepped := step_stepped script console p
  generalize houtcome : p.step script console = outcome at stepped
  rw [h] at houtcome
  cases stepped with
  | stuck => cases houtcome
  | uncleared => cases houtcome
  | faulted => cases houtcome
  | @ended begun hbegun hnext =>
    cases houtcome
    exact ⟨begun, hbegun, hnext, congrArg (fun position => (script.settle position).1) (begins_of_begun? hbegun).2⟩
  | @performed _ r operation way _ _ =>
    rcases reported_answers script console (r.follow way) operation.action with
      ⟨told, htold, -⟩ | ⟨fault, failed, hfailed⟩
    · cases houtcome.trans htold
    · cases houtcome.trans hfailed

/-- a step runs the operation that the counter counts to -/
theorem Valid.number?_eq (h : p.Valid script) (formed : script.WellFormed) {n : Nat}
    (hnumber : p.number? script console = some n) : n = script.counter p.position := by
  obtain ⟨begun, hbegun, hsettle⟩ := Option.bind_eq_some_iff.1 hnumber
  rw [(begins_of_begun? hbegun).2, h.position.settle_eq formed] at hsettle
  split at hsettle
  · exact (Option.some.inj hsettle).symm
  · cases hsettle

/-- **Everything that a step does to the counter**: it runs the operation that it counts to, and goes on to the
follower of that. -/
theorem Valid.step_counter (h : p.Valid script) (formed : script.WellFormed) (spoken : script.Spoken)
    (hstep : p.step script console = (.ok true, q)) :
    ∃ operation, p.number? script console = some (script.counter p.position) ∧
      script.operations[script.counter p.position]? = some operation ∧
      script.operationAt? (script.settle p.position).1 = some operation ∧
      script.counter q.position = script.follower p.flag (script.counter p.position) operation := by
  obtain ⟨begun, operation, way, r, hnext, hexecute, hposition⟩ := performed_of_step hstep
  obtain ⟨begins, i, hsettle, hoperation⟩ := begins_of_next? hnext
  have hnumber : p.number? script console = some i := by
    obtain ⟨first, hfirst, -⟩ := Option.bind_eq_some_iff.1 hnext
    rw [number?, hfirst, Option.bind_some, (begins_of_begun? hfirst).2, hsettle]
  obtain rfl := h.number?_eq formed hnumber
  refine ⟨operation, hnumber, hoperation, ?_, ?_⟩
  · rw [hsettle]
    exact (operationAt?_of_next? hnext).1
  · have hsettled : script.counter begun.position = script.counter p.position := by
      have kept := h.position.settles.counter h.position
      rwa [hsettle] at kept
    rw [hposition, counter_follow hexecute (spoken operation (List.mem_of_getElem? hoperation)), hsettled, begins.flag]

/-- a step that ends a performance has come past the last operation -/
theorem Valid.ended_counter (h : p.Valid script) (formed : script.WellFormed)
    (hstep : p.step script console = (.ok false, q)) :
    script.counter p.position = script.operations.length ∧ script.counter q.position = script.counter p.position := by
  obtain ⟨begun, hbegun, hnext, hposition⟩ := ended_of_step hstep
  have hcounter := h.position.settles.counter h.position
  refine ⟨?_, hposition ▸ hcounter⟩
  rcases Nat.lt_or_eq_of_le (h.position.counter_le formed) with hlt | heq
  · have hsettle := congrArg Prod.snd (h.position.settle_eq formed)
    rw [if_pos hlt] at hsettle
    simp [next?, hbegun, (begins_of_begun? hbegun).2, hsettle, List.getElem?_eq_getElem hlt] at hnext
  · exact heq

/-! ## Runs -/

variable (script console) in
/-- the numbers of the operations that a run performs, one after the other -/
def played : (limit : Nat) → Performance σ → List Nat
  | 0, _ => []
  | limit + 1, p =>
    (p.number? script console).toList ++
      match p.step script console with
      | (.ok true, q) => played limit q
      | _ => []

theorem played_of_goes_on (h : p.step script console = (.ok true, q)) (limit : Nat) :
    p.played script console (limit + 1) = (p.number? script console).toList ++ q.played script console limit := by
  rw [played, h]

theorem played_of_stops (h : (p.step script console).1 ≠ .ok true) (limit : Nat) :
    p.played script console (limit + 1) = (p.number? script console).toList := by
  rw [played]
  rcases hstep : p.step script console with ⟨fault | ⟨_ | _⟩, q⟩
  · exact List.append_nil _
  · exact List.append_nil _
  · exact absurd (congrArg Prod.fst hstep) h

/-- what every step makes of the counter holds between the operations of a run, of which the first is the one that the
counter counts to -/
theorem Valid.played_chain (formed : script.WellFormed) (spoken : script.Spoken) {R : Nat → Nat → Prop}
    (hR : ∀ p q : Performance σ, p.Valid script → p.step script console = (.ok true, q) →
      R (script.counter p.position) (script.counter q.position)) (limit : Nat) (h : p.Valid script) :
    (p.played script console limit).IsChain R ∧
      ∀ first ∈ (p.played script console limit).head?, first = script.counter p.position := by
  induction limit generalizing p with
  | zero => exact ⟨.nil, nofun⟩
  | succ limit ih =>
    by_cases hgoes : (p.step script console).1 = .ok true
    · obtain ⟨q, hstep⟩ : ∃ q, p.step script console = (.ok true, q) := ⟨_, Prod.ext hgoes rfl⟩
      obtain ⟨operation, hnumber, -⟩ := h.step_counter formed spoken hstep
      have hq : q.Valid script := by
        have valid := (h.step console formed).valid
        rwa [hstep] at valid
      obtain ⟨chain, first⟩ := ih hq
      rw [played_of_goes_on hstep, hnumber]
      refine ⟨List.isChain_cons.2 ⟨fun next hnext => ?_, chain⟩, fun n hn => (Option.some.inj hn).symm⟩
      rw [first next hnext]
      exact hR p q h hstep
    · rw [played_of_stops hgoes]
      cases hnumber : p.number? script console with
      | none => exact ⟨.nil, nofun⟩
      | some n =>
        refine ⟨.singleton n, fun m hm => ?_⟩
        cases hm
        exact h.number?_eq formed hnumber

/-- **The place of a performance is a counter.** Let a program have a script, and let steps and runs have led somewhere,
with any console and any input. Settling moves on as long as there is a move, which comes to an end and keeps the
counter, and it finds the operation that the counter counts to, or the end of the script when it has counted all of
them. A step after which the performance goes on has run that operation, and the counter goes on by one or, if the
operation is a jump that its guard has let through, to the first operation of the scene where it leads; a step that ends
the performance has found that all are counted. So of the operations that a run performs each one follows from the one
before, whatever scenes and acts are empty. -/
theorem counter_counts {program : Program} {script : Script} (hcompile : program.compile = .ok script) {σ : Type}
    {console : Console σ} {p : Performance σ} (hp : p.Reached script console) :
    let counter := script.counter p.position
    (∃ settled, script.Settles p.position settled ∧ script.counter settled = counter ∧
      script.settle p.position = (settled, if counter < script.operations.length then some counter else none)) ∧
    (∀ q, p.step script console = (.ok true, q) → ∃ operation, script.operations[counter]? = some operation ∧
      p.number? script console = some counter ∧
      script.counter q.position = script.follower p.flag counter operation) ∧
    (∀ q, p.step script console = (.ok false, q) →
      counter = script.operations.length ∧ script.counter q.position = counter) ∧
    ∀ limit, (p.played script console limit).IsChain script.Follows ∧
      ∀ first ∈ (p.played script console limit).head?, first = counter := by
  obtain ⟨hdefects, rfl⟩ := Program.compile_eq_ok_iff.1 hcompile
  have formed := ((Program.defects_eq_nil_iff program).1 hdefects).lower_wellFormed
  have valid := valid_of_reached formed hp
  refine ⟨⟨_, valid.position.settles, valid.position.settles.counter valid.position, valid.position.settle_eq formed⟩,
    fun q hstep => ?_, fun q hstep => valid.ended_counter formed hstep, fun limit => ?_⟩
  · obtain ⟨operation, hnumber, hoperation, -, hfollower⟩ := valid.step_counter formed program.lower_spoken hstep
    exact ⟨operation, hoperation, hnumber, hfollower⟩
  · refine valid.played_chain formed program.lower_spoken (fun p q hp hstep => ?_) limit
    obtain ⟨operation, -, hoperation, -, hfollower⟩ := hp.step_counter formed program.lower_spoken hstep
    exact ⟨operation, p.flag, hoperation, hfollower⟩

/-- at the start, before an act without scenes and a scene without operations, and once the walk has been left for a
scene of which nothing is left -/
theorem counter_counts_pacing : ∃ script, Rehearsal.pacing.compile = .ok script ∧
    let p := start script (Scripted.ofInputs ["1", "0"] false)
    let q := (p.run script Scripted.console 9).2
    script.counter p.position = 0 ∧ script.settle p.position = (⟨1, 1, 0⟩, some 0) ∧
      p.played script Scripted.console 9 = [0, 1, 2, 3, 4, 5, 1, 2, 3] ∧
      (p.played script Scripted.console 9).IsChain script.Follows ∧
      q.position = ⟨2, 0, 0⟩ ∧ script.counter q.position = 6 ∧ script.Settles q.position ⟨3, 0, 0⟩ := by
  have hcompile : Rehearsal.pacing.compile = .ok Rehearsal.pacing.lower := rfl
  have hp : (start Rehearsal.pacing.lower (Scripted.ofInputs ["1", "0"] false)).Reached Rehearsal.pacing.lower
      Scripted.console := .start _
  obtain ⟨-, -, -, chains⟩ := counter_counts hcompile hp
  obtain ⟨⟨settled, hsettles, -, hsettle⟩, -⟩ := counter_counts hcompile (hp.ran 9)
  refine ⟨Rehearsal.pacing.lower, hcompile, by decide, by decide, by decide,
    (chains 9).1, by decide, by decide, ?_⟩
  have hended : settled = ⟨3, 0, 0⟩ := (congrArg Prod.fst hsettle).symm.trans (by decide)
  exact hended ▸ hsettles

end Performance

end Playscript
