/-
Which comparison decides a conditional.

- `Scene.order`, `statements_pairwise`: the statements of a scene are listed in the order of their cues;
- `guards_nearest`: a guard names a comparison of the scene before its conditional, and no other statement between the two
  is a comparison;
- `compared?`, `Heard`: the comparison that a step carries out, and the last one that a performance has come by;
- `Decided`: that comparison has set the flag, and no unguarded comparison of the scene has been passed since;
- `decided_between`: so a conditional is decided by the comparison that its guard names, or by one which is itself the
  body of a conditional between the two;
- `shadowed_decides`: that does happen.
-/
import Playscript.Proofs.Performance.Effects
import Playscript.Proofs.Performance.Guards

namespace Playscript

/-! ## The order of statements -/

theorem offset_mono {lines : List Line} {i j : Nat} (h : i ≤ j) : offset lines i 0 ≤ offset lines j 0 := by
  have cut : lines.take j = lines.take i ++ (lines.drop i).take (j - i) := by
    rw [← List.take_add, Nat.add_sub_cancel' h]
  rw [offset, offset, cut, List.flatMap_append, List.length_append]
  omega

theorem zipIdx_pairwise {α : Type} (as : List α) (n : Nat) : (as.zipIdx n).Pairwise fun a b => a.2 < b.2 := by
  have numbers : ((as.zipIdx n).map Prod.snd).Pairwise (· < ·) := by
    rw [List.zipIdx_map_snd]
    exact List.pairwise_lt_range'
  exact List.pairwise_map.1 numbers

namespace Scene

variable (scene : Scene)

/-- how many cues of the scene come before a place -/
def order (place : StatementRef) : Nat := offset scene.lines place.line place.statement

variable {scene}

theorem says_of_cue {l k : Nat} {line : Line} {speaker : Ident} {s : Statement} (hline : scene.lines[l]? = some line)
    (hcue : line.cues[k]? = some (.statement speaker s)) : scene.Says ⟨l, k⟩ speaker s := by
  obtain ⟨statements, rfl, -⟩ := Line.eq_of_statement_mem (List.mem_of_getElem? hcue)
  rw [Line.cues, List.getElem?_map, Option.map_eq_some_iff] at hcue
  obtain ⟨s, hs, heq⟩ := hcue
  cases heq
  exact ⟨statements, hline, hs⟩

/-- what is said somewhere is the cue there -/
theorem Says.cue {place : StatementRef} {speaker : Ident} {s : Statement} (h : scene.Says place speaker s) :
    (scene.lines.flatMap Line.cues)[scene.order place]? = some (.statement speaker s) := by
  obtain ⟨statements, hline, hs⟩ := h
  refine (standing_of_cue hline ?_).nth
  rw [Line.cues, List.getElem?_map, hs, Option.map_some]

theorem mem_statements {place : StatementRef} {s : Statement} :
    (place, s) ∈ scene.statements ↔ ∃ speaker, scene.Says place speaker s := by
  constructor
  · intro h
    obtain ⟨⟨line, i⟩, hline, h⟩ := List.mem_flatMap.1 h
    obtain ⟨⟨s, j⟩, hs, heq⟩ := List.mem_map.1 h
    cases heq
    rw [List.mem_zipIdx_iff_getElem?] at hline hs
    cases line with
    | direction d => cases hs
    | speech speaker statements => exact ⟨speaker, statements, hline, hs⟩
  · rintro ⟨speaker, statements, hline, hs⟩
    refine List.mem_flatMap.2 ⟨(.speech speaker statements, place.line), List.mem_zipIdx_iff_getElem?.2 hline, ?_⟩
    exact List.mem_map.2 ⟨(s, place.statement), List.mem_zipIdx_iff_getElem?.2 hs, rfl⟩

theorem order_lt {place place' : StatementRef} {speaker : Ident} {s : Statement} (h : scene.Says place speaker s)
    (hbefore : place.line < place'.line ∨ (place.line = place'.line ∧ place.statement < place'.statement)) :
    scene.order place < scene.order place' := by
  rcases hbefore with hline | ⟨hline, hstatement⟩
  · obtain ⟨statements, hat, hs⟩ := h
    have within : place.statement < (Line.speech speaker statements).cues.length := by
      rw [Line.cues, List.length_map]
      exact (List.getElem?_eq_some_iff.1 hs).1
    have next := offset_end hat
    have later : offset scene.lines (place.line + 1) 0 ≤ _ := offset_mono hline
    unfold order
    unfold offset at next later ⊢
    omega
  · unfold order
    rw [hline]
    exact Nat.add_lt_add_left hstatement _

/-- **Statements are listed in order.** -/
theorem statements_pairwise (scene : Scene) :
    scene.statements.Pairwise fun a b => scene.order a.1 < scene.order b.1 := by
  have placed : scene.statements.Pairwise fun a b =>
      a.1.line < b.1.line ∨ (a.1.line = b.1.line ∧ a.1.statement < b.1.statement) := by
    refine List.pairwise_flatMap.2 ⟨fun line _ => ?_, (zipIdx_pairwise scene.lines 0).imp fun hlt a ha b hb => ?_⟩
    · exact List.pairwise_map.2 ((zipIdx_pairwise _ 0).imp fun hlt => .inr ⟨rfl, hlt⟩)
    · obtain ⟨_, -, rfl⟩ := List.mem_map.1 ha
      obtain ⟨_, -, rfl⟩ := List.mem_map.1 hb
      exact .inl hlt
  refine placed.imp_of_mem fun {a b} ha _ hbefore => ?_
  obtain ⟨speaker, said⟩ := mem_statements.1 ha
  exact order_lt said hbefore

/-! ## Guards -/

/-- a guard stands for a conditional among the items, and names the comparison nearest before it, or `last` if there is
none -/
def Nearest (last : Option StatementRef) (items : List (StatementRef × Statement)) (guard : Guard) : Prop :=
  ∃ before polarity body after, items = before ++ (guard.conditional, .conditional polarity body) :: after ∧
    ((guard.comparison = last ∧ ∀ item ∈ before, item.2.isComparison = false) ∨
      ∃ c comparison front between, before = front ++ (c, .compare comparison) :: between ∧
        guard.comparison = some c ∧ ∀ item ∈ between, item.2.isComparison = false)

theorem Nearest.cons {last : Option StatementRef} {items : List (StatementRef × Statement)} {guard : Guard}
    (h : Nearest last items guard) {item : StatementRef × Statement} (hitem : item.2.isComparison = false) :
    Nearest last (item :: items) guard := by
  obtain ⟨before, polarity, body, after, rfl, hlast⟩ := h
  refine ⟨item :: before, polarity, body, after, rfl, ?_⟩
  rcases hlast with ⟨hlast, hnone⟩ | ⟨c, comparison, front, between, rfl, hlast, hnone⟩
  · exact .inl ⟨hlast, List.forall_mem_cons.2 ⟨hitem, hnone⟩⟩
  · exact .inr ⟨c, comparison, item :: front, between, rfl, hlast, hnone⟩

theorem nearest_of_mem {last : Option StatementRef} {items : List (StatementRef × Statement)} {guard : Guard}
    (h : guard ∈ guardsAfter last items) : Nearest last items guard := by
  induction items generalizing last with
  | nil => cases h
  | cons item items ih =>
    obtain ⟨place, s⟩ := item
    cases s with
    | compare comparison =>
      obtain ⟨before, polarity, body, after, rfl, hlast⟩ := ih h
      refine ⟨_ :: before, polarity, body, after, rfl, .inr ?_⟩
      rcases hlast with ⟨hlast, hnone⟩ | ⟨c, comparison', front, between, rfl, hlast, hnone⟩
      · exact ⟨place, comparison, [], before, rfl, hlast, hnone⟩
      · exact ⟨c, comparison', _ :: front, between, rfl, hlast, hnone⟩
    | conditional polarity body =>
      rcases List.mem_cons.1 h with rfl | h
      · exact ⟨[], polarity, body, items, rfl, .inl ⟨rfl, nofun⟩⟩
      · exact (ih h).cons rfl
    | _ => exact (ih h).cons rfl

/-- **A guard names the nearest comparison** before its conditional, of those that are statements of their own. -/
theorem guards_nearest {place c : StatementRef} (h : ⟨place, some c⟩ ∈ scene.guards) :
    scene.order c < scene.order place ∧ (∃ speaker comparison, scene.Says c speaker (.compare comparison)) ∧
      ∀ place' speaker s, scene.Says place' speaker s → scene.order c < scene.order place' →
        scene.order place' < scene.order place → s.isComparison = false := by
  obtain ⟨before, polarity, body, after, hitems, hlast⟩ := nearest_of_mem h
  rcases hlast with ⟨hnone, -⟩ | ⟨_, comparison, front, between, rfl, hc, hbetween⟩
  · cases hnone
  cases hc
  have sorted := scene.statements_pairwise
  rw [hitems] at sorted
  obtain ⟨sortedBefore, sortedAfter, across⟩ := List.pairwise_append.1 sorted
  obtain ⟨-, sortedBetween, acrossBetween⟩ := List.pairwise_append.1 sortedBefore
  have hmem : (c, .compare comparison) ∈ front ++ (c, .compare comparison) :: between :=
    List.mem_append_right _ List.mem_cons_self
  refine ⟨across _ hmem _ List.mem_cons_self, ?_, fun place' speaker s said hlt hlt' => ?_⟩
  · obtain ⟨speaker, said⟩ := mem_statements.1 (hitems ▸ List.mem_append_left _ hmem)
    exact ⟨speaker, comparison, said⟩
  · have listed := mem_statements.2 ⟨speaker, said⟩
    rw [hitems] at listed
    -- it stands neither up to the comparison nor from the conditional on
    rcases List.mem_append.1 listed with listed | listed
    · rcases List.mem_append.1 listed with listed | listed
      · exact absurd (acrossBetween _ listed _ List.mem_cons_self) (by simpa using Nat.le_of_lt hlt)
      · rcases List.mem_cons.1 listed with heq | listed
        · cases heq
          exact absurd hlt (Nat.lt_irrefl _)
        · exact hbetween _ listed
    · rcases List.mem_cons.1 listed with heq | listed
      · cases heq
        exact absurd hlt' (Nat.lt_irrefl _)
      · exact absurd ((List.pairwise_cons.1 sortedAfter).1 _ listed) (by simpa using Nat.le_of_lt hlt')

end Scene

/-! ## The last comparison -/

/-- a comparison that somebody speaks -/
def Operation.compares (operation : Operation) : Bool := operation.speaker.isSome && operation.action.isComparison

namespace Performance

section Steps

variable {σ : Type} (script : Script) (console : Console σ)

/-- where the next step carries out a comparison, and what comes of it -/
def compared? (p : Performance σ) : Option (Position × Bool) :=
  match p.next? script console with
  | some (q, operation) =>
    if operation.allowed q.flag && operation.compares then
      match q.execute script console operation with
      | (.ok _, r) => r.flag.map (q.position, ·)
      | (.error _, _) => none
    else none
  | none => none

/-- a performance has come by this comparison last, with this outcome -/
inductive Heard : Performance σ → Option (Position × Bool) → Prop
  | start (state : σ) : Heard (start script state) none
  | stepped {p : Performance σ} {last : Option (Position × Bool)} :
    Heard p last → Heard (p.step script console).2 ((p.compared? script console).or last)
  | supplied {p : Performance σ} {last : Option (Position × Bool)} (state : σ) :
    Heard p last → Heard { p with console := state } last

variable {script console} {p q r : Performance σ} {operation : Operation} {last : Option (Position × Bool)}

theorem exists_heard (h : p.Reached script console) : ∃ last, p.Heard script console last :=
  holds_of_reached (P := fun p => ∃ last, p.Heard script console last) (fun state => ⟨none, .start state⟩)
    (fun _ ⟨_, hp⟩ => ⟨_, hp.stepped⟩) (fun _ state ⟨_, hp⟩ => ⟨_, hp.supplied state⟩) h

/-! ## Steps and comparisons -/

theorem Effect.position {outcome : Outcome σ} (h : Effect script console p operation outcome) :
    outcome.2.position = p.position := by
  cases h <;> rfl

/-- an operation compares and sets the flag, or it leaves the flag as it is -/
theorem Effect.flag {outcome : Outcome σ} (h : Effect script console p operation outcome) :
    (operation.compares = true ∧ outcome.1 = .ok .next ∧ outcome.2.flag.isSome = true) ∨
      (outcome.2.flag = p.flag ∧ (operation.compares = true → ∃ cause, outcome.1 = .error cause)) := by
  have other : operation.action.isComparison = false → operation.compares = true →
      ∃ cause, outcome.1 = .error cause := by
    intro haction hcompares
    rw [Operation.compares, haction, Bool.and_false] at hcompares
    cases hcompares
  cases h with
  | stopped cause => exact .inr ⟨rfl, fun _ => ⟨cause, rfl⟩⟩
  | refused cause => exact .inr ⟨rfl, fun _ => ⟨cause, rfl⟩⟩
  | unprinted => exact .inr ⟨rfl, fun _ => ⟨_, rfl⟩⟩
  | compared hspeaks _ haction =>
    refine .inl ⟨?_, rfl, rfl⟩
    rw [Operation.compares, hspeaks, haction]
    rfl
  | unspoken hnobody =>
    refine .inr ⟨rfl, fun hcompares => ?_⟩
    rw [Operation.compares, hnobody] at hcompares
    cases hcompares
  | moved hmoves =>
    refine .inr ⟨rfl, other ?_⟩
    have direction := hmoves.isDirection
    cases haction : operation.action <;> rw [haction] at direction <;> first | rfl | cases direction
  | assigned _ haction => exact .inr ⟨rfl, other (by rw [haction]; rfl)⟩
  | jumped haction => exact .inr ⟨rfl, other (by rw [haction]; rfl)⟩
  | received _ haction => exact .inr ⟨rfl, other (by rw [haction]; rfl)⟩
  | printed _ haction => exact .inr ⟨rfl, other (by rw [haction]; rfl)⟩
  | pushed _ haction => exact .inr ⟨rfl, other (by rw [haction]; rfl)⟩
  | popped _ haction => exact .inr ⟨rfl, other (by rw [haction]; rfl)⟩

theorem position_of_execute {answer : Except RuntimeError Flow}
    (h : p.execute script console operation = (answer, q)) : q.position = p.position := by
  rcases @execute_effect _ script console p operation with ⟨-, hidle⟩ | ⟨-, heffect⟩
  · rw [h] at hidle
    exact congrArg Performance.position hidle
  · rw [h] at heffect
    exact heffect.position

/-- a step carries out a comparison and sets the flag by it, or leaves the flag as it is -/
theorem compared?_cases {answer : Except RuntimeError Flow} (hnext : p.next? script console = some (q, operation))
    (hexecute : q.execute script console operation = (answer, r)) :
    (∃ outcome, answer = .ok .next ∧ operation.compares = true ∧
        p.compared? script console = some (q.position, outcome) ∧ r.flag = some outcome) ∨
      (p.compared? script console = none ∧ r.flag = q.flag ∧
        (operation.guard = none → operation.compares = true → ∃ cause, answer = .error cause)) := by
  have compared : p.compared? script console = if operation.allowed q.flag && operation.compares then
      match answer with
      | .ok _ => r.flag.map (q.position, ·)
      | .error _ => none
    else none := by
    rw [compared?, hnext]
    dsimp only
    rw [hexecute]
    cases answer <;> rfl
  rcases @execute_effect _ script console q operation with ⟨hheld, hidle⟩ | ⟨hallowed, heffect⟩
  · rw [hexecute] at hidle
    refine .inr ⟨by rw [compared, hheld]; rfl, congrArg flag hidle, fun hguard => ?_⟩
    rw [Operation.allowed, hguard] at hheld
    cases hheld
  · rw [hexecute] at heffect
    rw [hallowed, Bool.true_and] at compared
    rcases heffect.flag with ⟨hcompares, rfl, hset⟩ | ⟨hkept, hfailed⟩
    · obtain ⟨outcome, houtcome⟩ := Option.isSome_iff_exists.1 hset
      refine .inl ⟨outcome, rfl, hcompares, ?_, houtcome⟩
      dsimp only at houtcome
      rw [compared, if_pos hcompares, houtcome]
      rfl
    · refine .inr ⟨?_, hkept, fun _ => hfailed⟩
      rw [compared]
      split
      · rename_i hcompares
        obtain ⟨cause, rfl⟩ := hfailed hcompares
        rfl
      · rfl

/-- the last comparison has set the flag, and of those in the scene that are not guarded none has been passed since -/
structure Decided (script : Script) (p : Performance σ) (last : Option (Position × Bool)) : Prop where
  flag : p.flag = last.map Prod.snd
  spoken : ∀ position outcome, last = some (position, outcome) →
    ∃ operation, script.operationAt? position = some operation ∧ operation.compares = true
  latest : ∀ line < p.position.line, ∀ operation,
    script.operationAt? { p.position with line := line } = some operation → operation.guard = none →
    operation.compares = true →
      ∃ line' outcome, last = some ({ p.position with line := line' }, outcome) ∧ line ≤ line' ∧
        line' < p.position.line

/-- at the beginning of a scene nothing of it has been passed -/
theorem Decided.opening (h : Decided script p last) (hflag : q.flag = p.flag) (hline : q.position.line = 0) :
    Decided script q last where
  flag := hflag.trans h.flag
  spoken := h.spoken
  latest := fun line hlt => absurd (hline ▸ hlt) (Nat.not_lt_zero line)

theorem Decided.same (h : Decided script p last) (hflag : q.flag = p.flag) (hposition : q.position = p.position) :
    Decided script q last := by
  obtain ⟨flag, spoken, latest⟩ := h
  rw [← hposition] at latest
  exact ⟨hflag.trans flag, spoken, latest⟩

theorem Decided.moved (h : Decided script p last) (hflag : q.flag = p.flag)
    (hposition : q.position = p.position ∨ q.position.line = 0) : Decided script q last :=
  hposition.elim (h.same hflag) (h.opening hflag)

/-- after an operation of a scene, which may have been a comparison -/
theorem Decided.follow {flow : Flow} (h : Decided script q last)
    (hnext : p.next? script console = some (q, operation))
    (hexecute : q.execute script console operation = (.ok flow, r)) :
    Decided script (r.follow flow) ((p.compared? script console).or last) := by
  have still := position_of_execute hexecute
  have hat := (operationAt?_of_next? hnext).1
  rcases compared?_cases hnext hexecute with ⟨outcome, hflow, hcompares, hcompared, hflag⟩ | ⟨hcompared, hflag, hpassed⟩
  · cases hflow
    rw [hcompared, Option.some_or]
    refine ⟨hflag, fun position outcome hlast => ?_, fun line hlt other hother hguard hother' => ?_⟩
    · cases hlast
      exact ⟨operation, hat, hcompares⟩
    · refine ⟨q.position.line, outcome, ?_, ?_, ?_⟩
      · rw [Performance.follow, still]
      · rw [Performance.follow, still] at hlt
        exact Nat.le_of_lt_succ hlt
      · rw [Performance.follow, still]
        exact Nat.lt_succ_self _
  · rw [hcompared, Option.none_or]
    cases flow with
    | jump act scene => exact h.opening hflag rfl
    | next =>
      refine ⟨hflag.trans h.flag, h.spoken, fun line hlt other hother hguard hcompares => ?_⟩
      rw [Performance.follow, still] at hlt hother ⊢
      rcases Nat.lt_succ_iff_lt_or_eq.1 hlt with hlt | rfl
      · obtain ⟨line', outcome, hlast, hle, hlt'⟩ := h.latest line hlt other hother hguard hcompares
        exact ⟨line', outcome, hlast, hle, Nat.lt_succ_of_lt hlt'⟩
      · -- the operation that was just run is no comparison
        cases hat.symm.trans hother
        obtain ⟨cause, hcause⟩ := hpassed hguard hcompares
        cases hcause

theorem compared?_eq_none (h : p.next? script console = none) : p.compared? script console = none := by
  rw [compared?, h]

/-- reporting keeps the flag and the place -/
theorem Decided.reported (h : Decided script p last) (action : Action) :
    Decided script (p.reported script console action).2 last := by
  unfold Performance.reported
  split
  · dsimp only
    split <;> exact h.same rfl rfl
  · exact h

/-- **A step keeps account of the comparison** that the flag comes from. -/
theorem step_decided (h : Decided script p last) :
    Decided script (p.step script console).2 ((p.compared? script console).or last) := by
  generalize houtcome : p.step script console = outcome
  have stepped := houtcome ▸ p.step_stepped script console
  cases stepped with
  | stuck hstuck =>
    rw [compared?_eq_none (next?_eq_none hstuck), Option.none_or]
    exact h
  | uncleared hstuck =>
    rw [compared?_eq_none (next?_eq_none hstuck), Option.none_or]
    exact h.same rfl rfl
  | @ended q hbegun hnext =>
    rw [compared?_eq_none hnext, Option.none_or]
    obtain ⟨begins, hposition⟩ := begins_of_begun? hbegun
    refine h.moved begins.flag ?_
    rcases script.settle_cases q.position with hend | ⟨settled, span, hfound, -, -, hmoved⟩
    · exact .inr (congrArg (Position.line ∘ Prod.fst) hend)
    · dsimp only
      rw [hfound, ← hposition]
      exact hmoved
  | @faulted q r operation cause hnext hexecute =>
    have still := position_of_execute hexecute
    obtain ⟨_, hflow, -⟩ | ⟨hcompared, hflag, -⟩ := compared?_cases hnext hexecute
    · cases hflow
    · rw [hcompared, Option.none_or]
      refine h.moved (hflag.trans (begins_of_next? hnext).1.flag) ?_
      rw [Performance.fail, still]
      exact (operationAt?_of_next? hnext).2
  | performed hnext hexecute =>
    have begun := h.moved (begins_of_next? hnext).1.flag (operationAt?_of_next? hnext).2
    exact (begun.follow hnext hexecute).reported _

/-- **Wherever steps and runs lead**, the flag comes from the last comparison. -/
theorem decided_of_heard (h : p.Heard script console last) : Decided script p last := by
  induction h with
  | start state => exact ⟨rfl, nofun, fun line hlt => absurd hlt (Nat.not_lt_zero line)⟩
  | stepped _ ih => exact step_decided ih
  | supplied state _ ih => exact ih.same rfl rfl

end Steps

/-! ## Guards and the last comparison -/

/-- a spoken comparison comes from a comparison, or from a conditional that asks for one -/
theorem exists_comparison_of_cue {characters : List Ident} {act : Nat} {cue : Cue} {operation : Operation}
    (h : cue.operation? characters act = some operation) (hcompares : operation.compares = true) :
    ∃ speaker comparison, cue = .statement speaker (.compare comparison) ∨
      ∃ polarity, cue = .statement speaker (.conditional polarity (.compare comparison)) := by
  cases cue with
  | direction d =>
    cases h
    cases hcompares
  | statement speaker s =>
    obtain ⟨body, action, haction, -, hshape⟩ := Operation.ofStatement?_cases h
    have comparison : action.isComparison = true := by
      rcases hshape with ⟨-, rfl⟩ | ⟨_, -, rfl⟩ <;> exact hcompares
    obtain ⟨c, rfl⟩ : ∃ c, body = .compare c := by
      cases body <;> cases haction <;> first | exact ⟨_, rfl⟩ | cases comparison
    rcases hshape with ⟨rfl, -⟩ | ⟨polarity, rfl, -⟩
    · exact ⟨speaker, c, .inl rfl⟩
    · exact ⟨speaker, c, .inr ⟨polarity, rfl⟩⟩

/-- **What decides a conditional.** Let a program have a script, and let a performance come to a conditional whose guard
names a comparison. The last comparison that has been carried out stands in the same scene and has left its outcome in
the flag. It is the one that the guard names, or else the body of a conditional between that and this one. -/
theorem decided_between {program : Program} {script : Script} (hcompile : program.compile = .ok script) {σ : Type}
    {console : Console σ} {p q : Performance σ} {last : Option (Position × Bool)} (h : p.Heard script console last)
    {operation : Operation} (hnext : p.next? script console = some (q, operation)) {act : Act} {scene : Scene}
    (hact : program.acts[q.position.act]? = some act) (hscene : act.scenes[q.position.scene]? = some scene)
    {place c : StatementRef} (hplace : scene.order place = q.position.line)
    (hguard : ⟨place, some c⟩ ∈ scene.guards) :
    ∃ decisive outcome, last = some ({ q.position with line := scene.order decisive }, outcome) ∧
      p.flag = some outcome ∧
      (decisive = c ∨
        scene.order c < scene.order decisive ∧ scene.order decisive < scene.order place ∧
          ∃ speaker polarity comparison, scene.Says decisive speaker (.conditional polarity (.compare comparison))) := by
  obtain ⟨hdefects, rfl⟩ := Program.compile_eq_ok_iff.1 hcompile
  have sound := (Program.defects_eq_nil_iff program).1 hdefects
  have decided := decided_of_heard h
  obtain ⟨hat, hmoved⟩ := operationAt?_of_next? hnext
  have here := decided.moved (begins_of_next? hnext).1.flag hmoved
  obtain ⟨span, hspan, -, -⟩ := Script.operationAt?_eq_some hat
  obtain ⟨act', scene', hact', hscene', operations⟩ := sound.operationAt?_lower hspan
  cases hact.symm.trans hact'
  cases hscene.symm.trans hscene'
  obtain ⟨hbefore, ⟨speaker', comparison, named⟩, hbetween⟩ := Scene.guards_nearest hguard
  -- the comparison that the guard names has been passed, so the last one is that or a later one
  have passed := (operations (scene.order c)).trans (congrArg (Option.bind · _) named.cue)
  obtain ⟨line, outcome, hlast, hle, hlt⟩ := here.latest _ (hplace ▸ hbefore) _ passed rfl rfl
  have hflag : p.flag = some outcome := by rw [decided.flag, hlast, Option.map_some]
  obtain ⟨decisive, hdecisive, hcompares⟩ := decided.spoken _ _ hlast
  obtain ⟨cue, hcue, hoperation⟩ := Option.bind_eq_some_iff.1 ((operations line).symm.trans hdecisive)
  obtain ⟨l, k, row, hrow, hk, rfl⟩ := exists_line_of_cue hcue
  rcases Nat.lt_or_eq_of_le hle with hlater | heq
  · obtain ⟨who, other, hspoken⟩ := exists_comparison_of_cue hoperation hcompares
    refine ⟨⟨l, k⟩, outcome, hlast, hflag, .inr ⟨hlater, hplace ▸ hlt, ?_⟩⟩
    rcases hspoken with rfl | ⟨polarity', rfl⟩
    · -- a comparison of its own would have been named instead
      cases hbetween ⟨l, k⟩ who _ (Scene.says_of_cue hrow hk) hlater (hplace ▸ hlt)
    · exact ⟨who, polarity', other, Scene.says_of_cue hrow hk⟩
  · exact ⟨c, outcome, heq ▸ hlast, hflag, .inl rfl⟩

/-- the second question is asked only if the first one is answered by yes -/
def doorway : Scene where
  description := "A doorway"
  lines := [.direction (.enter [⟨"porter"⟩, ⟨"guest"⟩]),
    .speech ⟨"porter"⟩ [.compare ⟨.equal, false, .constant 1, .constant 1⟩,
      .conditional true (.compare ⟨.equal, false, .constant 1, .constant 2⟩), .conditional true (.output .integer)]]

def shadowed : Program where
  title := "The second question"
  characters := [⟨⟨"porter"⟩, "who asks"⟩, ⟨⟨"guest"⟩, "who is asked"⟩]
  acts := [⟨"A house", [doorway]⟩]

theorem shadowed_compiles : shadowed.compile = .ok shadowed.lower := rfl

/-- the performance that comes to the third statement -/
def atThird : Performance Scripted :=
  ((start shadowed.lower (Scripted.ofInputs [] false)).run shadowed.lower Scripted.console 3).2

theorem atThird_heard : atThird.Heard shadowed.lower Scripted.console (some (⟨0, 0, 2⟩, false)) :=
  ((Heard.start (Scripted.ofInputs [] false)).stepped.stepped.stepped :
    Heard shadowed.lower Scripted.console _ _)

/-- **A guard may name another comparison** than the one that decides: here it names the first, which comes out true,
and the conditional is passed over since the second comes out false. -/
theorem shadowed_decides :
    ⟨⟨1, 2⟩, some ⟨1, 0⟩⟩ ∈ doorway.guards ∧ doorway.order ⟨1, 0⟩ = 1 ∧ doorway.order ⟨1, 2⟩ = 3 ∧
      ∃ script, shadowed.compile = .ok script ∧ ∃ p : Performance Scripted, p.Reached script Scripted.console ∧
        p.Heard script Scripted.console (some (⟨0, 0, 2⟩, false)) ∧
        (p.next? script Scripted.console).map (·.1.position) = some ⟨0, 0, 3⟩ := by
  refine ⟨by decide, by decide, by decide, shadowed.lower, shadowed_compiles, atThird, .ran 3 (.start _), ?_, ?_⟩
  · exact atThird_heard
  · decide

theorem decided_between_shadowed :
    ∃ q operation, atThird.next? shadowed.lower Scripted.console = some (q, operation) ∧ q.position = ⟨0, 0, 3⟩ ∧
      ∃ decisive outcome, some (⟨0, 0, 2⟩, false) = some ({ q.position with line := doorway.order decisive }, outcome) ∧
        atThird.flag = some outcome ∧
        (decisive = ⟨1, 0⟩ ∨ doorway.order ⟨1, 0⟩ < doorway.order decisive ∧
          doorway.order decisive < doorway.order ⟨1, 2⟩ ∧ ∃ speaker polarity comparison,
            doorway.Says decisive speaker (.conditional polarity (.compare comparison))) := by
  have hplace : (atThird.next? shadowed.lower Scripted.console).map (·.1.position) = some ⟨0, 0, 3⟩ := by decide
  obtain ⟨⟨q, operation⟩, hnext, hposition⟩ := Option.map_eq_some_iff.1 hplace
  dsimp only at hposition
  refine ⟨q, operation, hnext, hposition, ?_⟩
  have hact : shadowed.acts[q.position.act]? = some ⟨"A house", [doorway]⟩ := by rw [hposition]; rfl
  have hscene : [doorway][q.position.scene]? = some doorway := by rw [hposition]; rfl
  have hguard : ⟨⟨1, 2⟩, some ⟨1, 0⟩⟩ ∈ doorway.guards := by decide
  exact decided_between shadowed_compiles atThird_heard hnext hact hscene (by rw [hposition]; rfl) hguard

end Performance

end Playscript
