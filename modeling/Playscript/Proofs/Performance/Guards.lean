/-
Conditionals that nothing decides.

- `Program.Sound.operationAt?_lower`: the operations of a scene are those of its cues, one by one;
- `guardsAfter_append`: a conditional with no comparison before it in its scene is listed with none;
- `mem_guards_of_first`: so the first cue of a scene to have to do with the flag is listed with no comparison, if it is a
  conditional;
- `AsksFirst.unguardedAt`: where the flag is asked for first, such a conditional stands;
- `flagUnset_of_unguarded`: hence a performance misses the flag only at a conditional that is listed with no comparison,
  and never if there is none.
-/
import Playscript.Conversion.Transcribe
import Playscript.Proofs.Performance.Flag

namespace Playscript

/-! ## Operations and cues -/

/-- a cue of the lines stands in one of them -/
theorem exists_line_of_cue {lines : List Line} {k : Nat} {cue : Cue} (h : (lines.flatMap Line.cues)[k]? = some cue) :
    ∃ l c line, lines[l]? = some line ∧ line.cues[c]? = some cue ∧ offset lines l c = k := by
  induction lines generalizing k with
  | nil => cases h
  | cons line rest ih =>
    rw [List.flatMap_cons] at h
    rcases Nat.lt_or_ge k line.cues.length with hlt | hge
    · rw [List.getElem?_append_left hlt] at h
      exact ⟨0, k, line, rfl, h, Nat.zero_add k⟩
    · rw [List.getElem?_append_right hge] at h
      obtain ⟨l, c, found, hline, hcue, hoffset⟩ := ih h
      refine ⟨l + 1, c, found, hline, hcue, ?_⟩
      have shifted : offset (line :: rest) (l + 1) c = line.cues.length + offset rest l c := by
        rw [offset, offset, List.take_succ_cons, List.flatMap_cons, List.length_append, Nat.add_assoc]
      rw [shifted, hoffset]
      exact Nat.add_sub_of_le hge

/-- **The operations of a scene are those of its cues**, one by one. -/
theorem Program.Sound.operationAt?_lower {program : Program} (h : program.Sound) {i j : Nat} {span : Span}
    (hspan : program.lower.spanAt? i j = some span) :
    ∃ act scene, program.acts[i]? = some act ∧ act.scenes[j]? = some scene ∧ ∀ k,
      program.lower.operationAt? ⟨i, j, k⟩ =
        ((scene.lines.flatMap Line.cues)[k]?).bind (Cue.operation? program.declared (i + 1)) := by
  obtain ⟨spans, hspans, hspan'⟩ := Option.bind_eq_some_iff.1 hspan
  obtain ⟨row, operations, hrow, hget, hitems⟩ := spanRowsFrom_items [] hspans hspan'
  obtain ⟨scenes, lines, hscenes, hlines, rfl⟩ := operationsByScene_get hrow hget
  -- there are as many operations as cues, and the span is as long
  have same := h.operations_eq hscenes hlines (i + 1)
  have hlength := congrArg List.length same
  rw [List.length_map, List.length_map] at hlength
  have hcovers : span.length = (lines.flatMap Line.cues).length := by
    obtain ⟨hi, rfl⟩ := List.getElem?_eq_some_iff.1 hspans
    obtain ⟨hi', rfl⟩ := List.getElem?_eq_some_iff.1 hscenes
    obtain ⟨hj, rfl⟩ := List.getElem?_eq_some_iff.1 hspan'
    obtain ⟨hj', rfl⟩ := List.getElem?_eq_some_iff.1 hlines
    exact (h.lower_covers.get hi hi').get hj hj'
  rw [linesByScene, List.getElem?_map, Option.map_eq_some_iff] at hscenes
  obtain ⟨act, hact, rfl⟩ := hscenes
  rw [List.getElem?_map, Option.map_eq_some_iff] at hlines
  obtain ⟨scene, hscene, rfl⟩ := hlines
  refine ⟨act, scene, hact, hscene, fun k => ?_⟩
  rw [Script.operationAt?, hspan]
  dsimp only
  split
  · rename_i hk
    have hoperation := hitems k (by omega)
    have hcue := congrArg (·[k]?) same
    simp only [List.getElem?_map] at hcue
    rw [List.nil_append] at hoperation
    refine hoperation.trans ?_
    rw [List.getElem?_eq_getElem (by omega : k < (scene.lines.flatMap Line.cues).length)] at hcue ⊢
    rw [Option.map_some] at hcue
    obtain ⟨operation, hoperation, heq⟩ := Option.map_eq_some_iff.1 hcue.symm
    rw [Option.bind_some, hoperation, heq]
  · rename_i hk
    rw [List.getElem?_eq_none (by omega), Option.bind_none]

/-! ## Guards -/

/-- who says a statement of a scene -/
def Scene.Says (scene : Scene) (place : StatementRef) (speaker : Ident) (s : Statement) : Prop :=
  ∃ statements, scene.lines[place.line]? = some (.speech speaker statements) ∧ statements[place.statement]? = some s

def Statement.isComparison : Statement → Bool
  | .compare _ => true
  | _ => false

/-- **A conditional with no comparison before it** is listed with what was listed last. -/
theorem guardsAfter_append {last : Option StatementRef} {before : List (StatementRef × Statement)}
    (h : ∀ item ∈ before, item.2.isComparison = false) (place : StatementRef) (polarity : Bool) (body : Statement)
    (after : List (StatementRef × Statement)) :
    ⟨place, last⟩ ∈ Scene.guardsAfter last (before ++ (place, .conditional polarity body) :: after) := by
  induction before with
  | nil => exact List.mem_cons_self
  | cons item before ih =>
    obtain ⟨first, s⟩ := item
    have ih := ih fun item hitem => h item (List.mem_cons_of_mem _ hitem)
    cases s with
    | compare c => exact absurd (h _ List.mem_cons_self) nofun
    | conditional polarity' body' => exact List.mem_cons_of_mem _ ih
    | _ => exact ih

/-- numbered items, cut at one of them -/
theorem zipIdx_split {α : Type} {as : List α} {i : Nat} {a : α} (h : as[i]? = some a) :
    as.zipIdx = (as.take i).zipIdx ++ (a, i) :: (as.drop (i + 1)).zipIdx (i + 1) := by
  obtain ⟨hlt, rfl⟩ := List.getElem?_eq_some_iff.1 h
  have cut : as = as.take i ++ as[i] :: as.drop (i + 1) := by
    rw [← List.drop_eq_getElem_cons hlt, List.take_append_drop]
  have numbered := congrArg List.zipIdx cut
  rwa [List.zipIdx_append, List.zipIdx_cons, List.length_take_of_le (Nat.le_of_lt hlt), Nat.zero_add] at numbered

/-- the statements of a speech, placed in their scene -/
def placedIn (line : Nat) (statements : List Statement) : List (StatementRef × Statement) :=
  statements.zipIdx.map fun (statement, j) => (⟨line, j⟩, statement)

theorem mem_of_mem_placedIn {line : Nat} {statements : List Statement} {item : StatementRef × Statement}
    (h : item ∈ placedIn line statements) : item.2 ∈ statements := by
  obtain ⟨⟨s, j⟩, hs, rfl⟩ := List.mem_map.1 h
  exact List.fst_mem_of_mem_zipIdx hs

/-- a statement of a line is said in it -/
theorem Line.exists_cue {line : Line} {s : Statement} (h : s ∈ line.statements) :
    ∃ who, .statement who s ∈ line.cues := by
  cases line with
  | direction d => cases h
  | speech speaker statements => exact ⟨speaker, List.mem_map_of_mem h⟩

/-- the statements of a scene before a place of it are said before that place -/
theorem statements_split {scene : Scene} {place : StatementRef} {speaker : Ident} {s : Statement}
    (h : scene.Says place speaker s) :
    ∃ before after, scene.statements = before ++ (place, s) :: after ∧ ∀ item ∈ before, ∃ who,
      .statement who item.2 ∈ (scene.lines.flatMap Line.cues).take (offset scene.lines place.line place.statement) := by
  obtain ⟨statements, hline, hs⟩ := h
  let row : Line × Nat → List (StatementRef × Statement) := fun item => placedIn item.2 item.1.statements
  have hspeech : placedIn place.line statements = placedIn place.line (statements.take place.statement) ++
      (place, s) :: ((statements.drop (place.statement + 1)).zipIdx (place.statement + 1)).map
        fun (statement, j) => (⟨place.line, j⟩, statement) := by
    rw [placedIn, zipIdx_split hs, List.map_append, List.map_cons, placedIn]
  have hscene : scene.statements = (scene.lines.take place.line).zipIdx.flatMap row ++
      (placedIn place.line statements ++
        ((scene.lines.drop (place.line + 1)).zipIdx (place.line + 1)).flatMap row) := by
    show scene.lines.zipIdx.flatMap row = _
    rw [zipIdx_split hline, List.flatMap_append, List.flatMap_cons]
    rfl
  rw [hspeech, List.append_assoc, List.cons_append, ← List.append_assoc] at hscene
  refine ⟨_, _, hscene, fun item hitem => ?_⟩
  have hle : place.statement ≤ (Line.speech speaker statements).cues.length := by
    rw [Line.cues, List.length_map]
    exact Nat.le_of_lt (List.getElem?_eq_some_iff.1 hs).1
  rw [take_offset hline hle]
  rcases List.mem_append.1 hitem with hearlier | hspoken
  · obtain ⟨⟨line, i⟩, hmem, hrow⟩ := List.mem_flatMap.1 hearlier
    obtain ⟨who, hcue⟩ := Line.exists_cue (mem_of_mem_placedIn hrow)
    exact ⟨who, List.mem_append_left _ (List.mem_flatMap_of_mem (List.fst_mem_of_mem_zipIdx hmem) hcue)⟩
  · refine ⟨speaker, List.mem_append_right _ ?_⟩
    rw [Line.cues, ← List.map_take]
    exact List.mem_map_of_mem (mem_of_mem_placedIn hspoken)

/-- **The first cue of a scene to have to do with the flag** is listed with no comparison, if it is a conditional. -/
theorem mem_guards_of_first {scene : Scene} {place : StatementRef} {speaker : Ident} {polarity : Bool}
    {body : Statement} (hplaced : scene.Says place speaker (.conditional polarity body))
    (h : ∀ who s, .statement who s ∈
      (scene.lines.flatMap Line.cues).take (offset scene.lines place.line place.statement) → s.isComparison = false) :
    ⟨place, none⟩ ∈ scene.guards := by
  obtain ⟨before, after, hstatements, hbefore⟩ := statements_split hplaced
  rw [Scene.guards, hstatements]
  refine guardsAfter_append (fun item hitem => ?_) place polarity body after
  obtain ⟨who, hsaid⟩ := hbefore item hitem
  exact h who item.2 hsaid

/-- the cue of an operation with a guard is a conditional -/
theorem Cue.conditional_of_guard {characters : List Ident} {act : Nat} {cue : Cue} {operation : Operation}
    (h : cue.operation? characters act = some operation) (hguard : operation.guard.isSome = true) :
    ∃ speaker polarity body, cue = .statement speaker (.conditional polarity body) := by
  cases cue with
  | direction d =>
    cases h
    cases hguard
  | statement speaker s =>
    obtain ⟨body, action, -, -, ⟨-, rfl⟩ | ⟨polarity, rfl, -⟩⟩ := Operation.ofStatement?_cases h
    · cases hguard
    · exact ⟨speaker, polarity, body, rfl⟩

/-! ## Missing the flag -/

/-- at a position of a script is the operation of a conditional of the program, which its scene lists with no
comparison -/
def Program.UnguardedAt (program : Program) (script : Script) (position : Position) : Prop :=
  ∃ act scene place speaker polarity body operation,
    program.acts[position.act]? = some act ∧ act.scenes[position.scene]? = some scene ∧
    scene.Says place speaker (.conditional polarity body) ∧
    offset scene.lines place.line place.statement = position.line ∧
    script.operationAt? position = some operation ∧
    Operation.ofStatement? program.declared (position.act + 1) (numberOf program.declared speaker)
      (.conditional polarity body) = some operation ∧
    ⟨place, none⟩ ∈ scene.guards

/-- such a conditional is reported -/
theorem Program.UnguardedAt.mem_unguarded {program : Program} {script : Script} {position : Position}
    (h : program.UnguardedAt script position) :
    ∃ line, ⟨⟨position.act + 1, position.scene + 1⟩, line⟩ ∈ program.unguarded := by
  obtain ⟨act, scene, place, -, -, -, -, hact, hscene, -, -, -, -, hguard⟩ := h
  refine ⟨place.line + 1, List.mem_flatMap.2 ⟨(act, position.act + 1), ?_, List.mem_flatMap.2
    ⟨(scene, position.scene + 1), ?_, List.mem_map.2 ⟨⟨place, none⟩, List.mem_filter.2 ⟨hguard, rfl⟩, rfl⟩⟩⟩⟩
  · exact List.mk_mem_zipIdx_iff_le_and_getElem?_sub.2 ⟨Nat.le_add_left _ _, hact⟩
  · exact List.mk_mem_zipIdx_iff_le_and_getElem?_sub.2 ⟨Nat.le_add_left _ _, hscene⟩

/-- **Where the flag is asked for first** stands a conditional that is listed with no comparison. -/
theorem Performance.AsksFirst.unguardedAt {program : Program} (sound : program.Sound) {position : Position}
    (h : AsksFirst program.lower position) : program.UnguardedAt program.lower position := by
  obtain ⟨operation, hat, hguard⟩ := h.asks
  obtain ⟨i, j, k⟩ := position
  obtain ⟨span, hspan, -, -⟩ := Script.operationAt?_eq_some hat
  obtain ⟨act, scene, hact, hscene, operations⟩ := sound.operationAt?_lower hspan
  obtain ⟨cue, hcue, hoperation⟩ := Option.bind_eq_some_iff.1 ((operations k).symm.trans hat)
  obtain ⟨speaker, polarity, body, rfl⟩ := Cue.conditional_of_guard hoperation hguard
  obtain ⟨line, statement, l, hline, hstatement, hoffset⟩ := exists_line_of_cue hcue
  obtain ⟨statements, rfl, -⟩ := Line.eq_of_statement_mem (List.mem_of_getElem? hstatement)
  rw [Line.cues, List.getElem?_map, Option.map_eq_some_iff] at hstatement
  obtain ⟨s, hs, heq⟩ := hstatement
  cases heq
  have hplaced : scene.Says ⟨line, statement⟩ speaker (.conditional polarity body) := ⟨statements, hline, hs⟩
  refine ⟨act, scene, ⟨line, statement⟩, speaker, polarity, body, operation, hact, hscene, hplaced, hoffset, hat,
    hoperation, mem_guards_of_first hplaced fun who s hsaid => ?_⟩
  -- a comparison before this place would have an operation before this one
  rw [hoffset] at hsaid
  obtain ⟨earlier, hlt, hget⟩ := List.mem_take_iff_getElem.1 hsaid
  cases hs : s.isComparison with
  | false => rfl
  | true =>
    cases s with
    | compare c =>
      have hearlier := operations earlier
      rw [List.getElem?_eq_getElem (Nat.lt_of_lt_of_le hlt (Nat.min_le_right _ _)), hget, Option.bind_some] at hearlier
      have unconcerned : true = false := h.first earlier (Nat.lt_of_lt_of_le hlt (Nat.min_le_left _ _)) _ hearlier
      cases unconcerned
    | _ => cases hs

namespace Performance

/-- a fault that ends a run is the fault of a step -/
theorem Reached.fault_of_run {σ : Type} {script : Script} {console : Console σ} {limit : Nat} {p : Performance σ}
    (h : p.Reached script console) {fault : Fault} (hrun : (p.run script console limit).1 = some (.error fault)) :
    ∃ q : Performance σ, q.Reached script console ∧ (q.step script console).1 = .error fault := by
  induction limit generalizing p with
  | zero => cases hrun
  | succ limit ih =>
    have next := h.stepped
    unfold run at hrun
    rcases hstep : p.step script console with ⟨(cause | ⟨_ | _⟩), q⟩ <;> rw [hstep] at hrun next
    · cases hrun
      exact ⟨p, h, congrArg Prod.fst hstep⟩
    · cases hrun
    · exact ih next hrun

/-- **The flag is missed only where no comparison decides.** Let a program have a script. Wherever steps and runs lead
to, with any console and any input: if the next step, or a run from there, misses the flag, the operation where it does
is that of a conditional which its scene lists with no comparison, and which is reported as unguarded. So a program in
which every conditional has a comparison before it in its scene never misses the flag. -/
theorem flagUnset_of_unguarded {program : Program} {script : Script} (hcompile : program.compile = .ok script) {σ : Type}
    {console : Console σ} {p : Performance σ} (hp : p.Reached script console) :
    (∀ fault, (p.step script console).1 = .error fault ∨
        (∃ limit, (p.run script console limit).1 = some (.error fault)) → fault.error = .flagUnset →
      program.UnguardedAt script fault.position ∧
        ∃ line, ⟨⟨fault.position.act + 1, fault.position.scene + 1⟩, line⟩ ∈ program.unguarded) ∧
    ((∀ act ∈ program.acts, ∀ scene ∈ act.scenes, ∀ guard ∈ scene.guards, guard.comparison ≠ none) →
      ∀ fault, (p.step script console).1 = .error fault ∨
        (∃ limit, (p.run script console limit).1 = some (.error fault)) → fault.error ≠ .flagUnset) := by
  obtain ⟨hdefects, rfl⟩ := Program.compile_eq_ok_iff.1 hcompile
  have sound := (Program.defects_eq_nil_iff program).1 hdefects
  have formed := sound.lower_wellFormed
  have missed : ∀ fault, (p.step program.lower console).1 = .error fault ∨
      (∃ limit, (p.run program.lower console limit).1 = some (.error fault)) → fault.error = .flagUnset →
        program.UnguardedAt program.lower fault.position := by
    intro fault hfault herror
    obtain ⟨q, hq, hstep⟩ : ∃ q : Performance σ, q.Reached program.lower console ∧
        (q.step program.lower console).1 = .error fault := by
      rcases hfault with hstep | ⟨limit, hrun⟩
      · exact ⟨p, hp, hstep⟩
      · exact hp.fault_of_run hrun
    have waits := step_waits console formed (valid_of_reached formed hq) (undecided_of_reached formed hq)
    exact (waits.asks fault hstep herror).unguardedAt sound
  refine ⟨fun fault hfault herror => ?_, fun hguards fault hfault herror => ?_⟩
  · have unguarded := missed fault hfault herror
    exact ⟨unguarded, unguarded.mem_unguarded⟩
  · obtain ⟨act, scene, place, -, -, -, -, hact, hscene, -, -, -, -, hguard⟩ := missed fault hfault herror
    exact hguards act (List.mem_of_getElem? hact) scene (List.mem_of_getElem? hscene) _ hguard rfl

/-- an answer is given before anything was asked; the comparison comes after the jump back only -/
def hasty : Program where
  title := "Haste"
  characters := [⟨⟨"clerk"⟩, "who answers"⟩, ⟨⟨"caller"⟩, "who asks"⟩]
  acts := [⟨"The office", [
    ⟨"The door", [.direction (.enter [⟨"clerk"⟩, ⟨"caller"⟩])]⟩,
    ⟨"The desk", [
      .speech ⟨"caller"⟩ [.assign (.constant 7), .output .integer],
      .speech ⟨"clerk"⟩ [.input .integer, .conditional true (.output .integer)],
      .speech ⟨"caller"⟩ [.compare ⟨.greater, false, .character ⟨"clerk"⟩, .constant 0⟩, .jump ⟨none, 2⟩]]⟩]⟩]

theorem flagUnset_of_unguarded_hasty : ∃ script, hasty.compile = .ok script ∧
    let p := ((start script (Scripted.ofInputs ["3"] false)).run script Scripted.console 4).2
    (p.step script Scripted.console).1 = .error ⟨⟨0, 1, 3⟩, .flagUnset⟩ ∧ hasty.UnguardedAt script ⟨0, 1, 3⟩ ∧
      ∃ line, ⟨⟨1, 2⟩, line⟩ ∈ hasty.unguarded := by
  have hcompile : hasty.compile = .ok hasty.lower := rfl
  have hstep : (((start hasty.lower (Scripted.ofInputs ["3"] false)).run hasty.lower Scripted.console 4).2.step
      hasty.lower Scripted.console).1 = .error ⟨⟨0, 1, 3⟩, .flagUnset⟩ := by decide
  refine ⟨hasty.lower, hcompile, hstep, ?_⟩
  exact (flagUnset_of_unguarded hcompile (.ran 4 (.start _))).1 _ (.inl hstep) rfl

example : hasty.unguarded = [⟨⟨1, 2⟩, 2⟩] ∧ Rehearsal.pacing.unguarded = [] := by decide +kernel

end Performance

end Playscript
