/-
What the lines of a text add to a play.

- `Draft.Takes`, `takes_of_step`: what one step can do;
- `Takes.adds`, `Run.adds`: below the first heading of an act every line adds to the acts what its kind weighs;
- `Run.above`: every line above that heading introduces a character;
- `counts_of_parse`: so the lines of a text count what its play has;
- `Run.not_text`: the line below a heading adds something.

Weights are given to the kinds of lines, so that one count serves acts and another all parts of the play together.
-/
import Playscript.Proofs.Outcome
import Playscript.Proofs.Play.Parsing
import Playscript.Proofs.Play.Stepping
import Mathlib.Algebra.Ring.Nat

namespace Playscript

/-- whether a line is above the first act, if all lines before it are -/
def aboveActs (line : List Char) : Bool := lineKind line != .act

/-- the kind of line that adds this to a scene -/
def PlayLine.kind : PlayLine → LineKind
  | .direction _ => .direction
  | .speech _ _ => .speaker

/-! ## Weights -/

section Weights

variable (w : LineKind → Nat)

/-- the weight of lines of text -/
def tally (lines : List (List Char)) : Nat := (lines.map fun line => w (lineKind line)).sum

@[simp] theorem tally_nil : tally w [] = 0 := rfl

@[simp] theorem tally_cons (line : List Char) (lines : List (List Char)) :
    tally w (line :: lines) = w (lineKind line) + tally w lines := rfl

@[simp] theorem tally_append (lines lines' : List (List Char)) :
    tally w (lines ++ lines') = tally w lines + tally w lines' := by
  simp [tally]

variable {w} in
theorem tally_eq_zero_iff {lines : List (List Char)} : tally w lines = 0 ↔ ∀ line ∈ lines, w (lineKind line) = 0 := by
  simp [tally, List.sum_eq_zero_iff_forall_eq_nat]

/-- the weight of a part of a play, by the kinds of the lines that give it -/
def PlayScene.weight (scene : PlayScene) : Nat := w .scene + (scene.lines.map fun line => w line.kind).sum

def PlayAct.weight (act : PlayAct) : Nat := w .act + (act.scenes.map (PlayScene.weight w)).sum

def weigh (acts : List PlayAct) : Nat := (acts.map (PlayAct.weight w)).sum

/-- the weight of a draft, with the speech that is going on -/
def Draft.weight (draft : Draft) : Nat := weigh w draft.acts + if draft.speech = none then 0 else w .speaker

end Weights

theorem sum_modifyLast {α : Type} {f : α → α} {g : α → Nat} {k : Nat} {as : List α} (hne : as ≠ [])
    (hlast : ∀ a, as.getLast? = some a → g (f a) = g a + k) :
    ((modifyLast f as).map g).sum = (as.map g).sum + k := by
  rcases List.eq_nil_or_concat as with hnil | ⟨front, a, rfl⟩
  · exact absurd hnil hne
  · rw [List.concat_eq_append] at hlast ⊢
    rw [modifyLast_append]
    simp only [List.map_append, List.map_cons, List.map_nil, List.sum_append, List.sum_cons, List.sum_nil,
      hlast a List.getLast?_concat]
    omega

namespace Draft

variable {w : LineKind → Nat}

theorem acts_ne_nil_of_inScene {draft : Draft} (h : draft.inScene = true) : draft.acts ≠ [] := by
  intro hnil
  simp [inScene, hnil] at h

theorem weigh_addLine {draft : Draft} (h : draft.inScene = true) (line : PlayLine) :
    weigh w (draft.addLine line).acts = weigh w draft.acts + w line.kind := by
  refine sum_modifyLast (acts_ne_nil_of_inScene h) fun act hact => ?_
  have hscenes : act.scenes ≠ [] := by simpa [inScene, hact] using h
  have hgrown := sum_modifyLast (g := PlayScene.weight w) (k := w line.kind) hscenes
    (f := fun scene => { scene with lines := scene.lines ++ [line] }) fun scene _ => by
      simp [PlayScene.weight]
      omega
  rw [PlayAct.weight, PlayAct.weight, hgrown]
  omega

theorem weigh_addScene {draft : Draft} (h : draft.acts ≠ []) (numeral description : String) :
    weigh w (draft.addScene ⟨numeral, description, []⟩).acts = weigh w draft.acts + w .scene := by
  refine sum_modifyLast h fun act _ => ?_
  simp [PlayAct.weight, PlayScene.weight]
  omega

/-- a speech goes on only in a scene -/
def Settled (draft : Draft) : Prop := draft.speech ≠ none → draft.inScene = true

theorem Settled.of_none {draft : Draft} (h : draft.speech = none) : draft.Settled := fun hne => absurd h hne

theorem weigh_closeSpeech {draft : Draft} (h : draft.Settled) : weigh w draft.closeSpeech.acts = draft.weight w := by
  cases hspeech : draft.speech with
  | none => simp [closeSpeech, weight, hspeech]
  | some said =>
    have hscene : inScene { draft with speech := none } = true := h (by simp [hspeech])
    simp only [closeSpeech, weight, hspeech, reduceCtorEq, if_false]
    exact weigh_addLine hscene (.speech said.1 (splitSentences said.2))

/-! ## One step -/

/-- what a draft may become by a line, by the kind of the line -/
inductive Takes (draft : Draft) (line : List Char) : Draft → Prop where
  | persona (persona : Persona) : draft.acts = [] → lineKind line ≠ .act →
    Takes draft line { draft with personae := draft.personae ++ [persona] }
  | act (numeral description : String) : lineKind line = .act →
    Takes draft line { draft.closeSpeech with acts := draft.closeSpeech.acts ++ [⟨numeral, description, []⟩] }
  | scene (numeral description : String) : draft.acts ≠ [] → lineKind line = .scene →
    Takes draft line (draft.closeSpeech.addScene ⟨numeral, description, []⟩)
  | direction (text : String) : draft.inScene = true → lineKind line = .direction →
    Takes draft line (draft.closeSpeech.addLine (.direction text))
  | speaker (name : String) : draft.inScene = true → lineKind line = .speaker →
    Takes draft line { draft.closeSpeech with speech := some (name, "") }
  | text (said : String × String) : draft.acts ≠ [] → draft.speech ≠ none → lineKind line = .text →
    Takes draft line { draft with speech := some said }

/-- **A line that can be taken is taken by its kind.** -/
theorem takes_of_step {draft next : Draft} {n : Nat} {line : List Char} (titled : draft.title ≠ none)
    (h : draft.step (n, line) = .ok next) : draft.Takes line next := by
  cases advances_of_step titled h with
  | persona hnil hact _ => exact .persona _ hnil (lineKind_ne_act hact)
  | act hact => exact .act _ _ (lineKind_act hact)
  | scene hacts hact hscene => exact .scene _ _ hacts (lineKind_scene hact hscene)
  | direction hin hline => exact .direction _ hin (hline ▸ lineKind_bracket _)
  | speaker hin hkind _ _ => exact .speaker _ hin hkind
  | text hacts hkind hspeech => exact .text _ hacts (by simp [hspeech]) hkind

namespace Takes

variable {draft next : Draft} {line : List Char} (h : draft.Takes line next)
include h

theorem title_eq : next.title = draft.title := by
  cases h <;> simp [addScene, addLine]

/-- **Below the heading of an act**, and from it on, a line adds what its kind weighs and no character. -/
theorem adds (htext : w .text = 0) (settled : draft.Settled) (hact : draft.acts ≠ [] ∨ lineKind line = .act) :
    next.acts ≠ [] ∧ next.Settled ∧ next.personae = draft.personae ∧
      next.weight w = draft.weight w + w (lineKind line) := by
  have closed : weigh w draft.closeSpeech.acts = draft.weight w := weigh_closeSpeech settled
  cases h with
  | persona _ hnil hkind => exact absurd hact (by simp [hnil, hkind])
  | act numeral description hkind =>
    refine ⟨by simp, .of_none (speech_closeSpeech draft), personae_closeSpeech draft, ?_⟩
    rw [← closed]
    simp [weight, weigh, PlayAct.weight, hkind]
  | scene numeral description hne hkind =>
    have hclosed : draft.closeSpeech.acts ≠ [] := by
      rw [Ne, ← List.isEmpty_iff, isEmpty_acts_closeSpeech, List.isEmpty_iff]
      exact hne
    refine ⟨?_, .of_none (speech_closeSpeech draft), personae_closeSpeech draft, ?_⟩
    · rw [Ne, ← List.isEmpty_iff]
      simpa [addScene, isEmpty_modifyLast] using hne
    · rw [weight, weigh_addScene hclosed, closed, hkind]
      simp [addScene]
  | direction text hin hkind =>
    have hclosed : draft.closeSpeech.inScene = true := (inScene_closeSpeech draft).trans hin
    refine ⟨acts_ne_nil_of_inScene ((inScene_addLine _ _).trans hclosed), .of_none (speech_closeSpeech draft),
      personae_closeSpeech draft, ?_⟩
    rw [weight, weigh_addLine hclosed, closed, hkind]
    simp [addLine, PlayLine.kind]
  | speaker name hin hkind =>
    have hclosed : draft.closeSpeech.inScene = true := (inScene_closeSpeech draft).trans hin
    refine ⟨acts_ne_nil_of_inScene hclosed, fun _ => hclosed, personae_closeSpeech draft, ?_⟩
    simp [weight, closed, hkind]
  | text said hne hspeech hkind =>
    refine ⟨hne, fun _ => settled hspeech, rfl, ?_⟩
    simp [weight, hspeech, hkind, htext]

/-- above the heading of the first act a line introduces a character -/
theorem introduces (hnil : draft.acts = []) (hkind : lineKind line ≠ .act) :
    ∃ persona, next = { draft with personae := draft.personae ++ [persona] } := by
  cases h with
  | persona persona _ _ => exact ⟨persona, rfl⟩
  | act _ _ hact => exact absurd hact hkind
  | scene _ _ hne => exact absurd hnil hne
  | direction _ hin => exact absurd hnil (acts_ne_nil_of_inScene hin)
  | speaker _ hin => exact absurd hnil (acts_ne_nil_of_inScene hin)
  | text _ hne => exact absurd hnil hne

theorem keeps (settled : draft.Settled) : next.Settled ∧ (draft.acts ≠ [] → next.acts ≠ []) := by
  by_cases hact : draft.acts ≠ [] ∨ lineKind line = .act
  · obtain ⟨hacts, hsettled, -, -⟩ := h.adds (w := fun _ => 0) rfl settled hact
    exact ⟨hsettled, fun _ => hacts⟩
  · obtain ⟨hnil, hkind⟩ := not_or.1 hact
    obtain ⟨persona, rfl⟩ := h.introduces (not_not.1 hnil) hkind
    exact ⟨settled, id⟩

/-- no speech goes on below a heading -/
theorem speech_of_heading (hheading : lineKind line = .act ∨ draft.acts ≠ [] ∧ lineKind line = .scene) :
    next.speech = none := by
  cases h with
  | act => exact speech_closeSpeech draft
  | scene => exact speech_closeSpeech draft
  | persona _ hnil hkind => exact absurd hheading (by simp [hnil, hkind])
  | _ => simp_all

end Takes

/-! ## Many lines -/

/-- from the first draft to the last, line by line -/
inductive Run : Draft → List (List Char) → Draft → Prop where
  | nil (draft : Draft) : Run draft [] draft
  | cons {first middle last : Draft} {line : List Char} {lines : List (List Char)} : first.Takes line middle →
    Run middle lines last → Run first (line :: lines) last

theorem run_of_steps {first last : Draft} {numbered : List (Nat × List Char)} (titled : first.title ≠ none)
    (h : first.steps numbered = .ok last) : first.Run (numbered.map (·.2)) last := by
  induction numbered generalizing first with
  | nil =>
    cases h
    exact .nil _
  | cons line rest ih =>
    obtain ⟨middle, hstep, hrest⟩ := bind_eq_ok.1 h
    have takes : first.Takes line.2 middle := takes_of_step titled hstep
    exact .cons takes (ih (takes.title_eq ▸ titled) hrest)

theorem Run.split {first last : Draft} {lines lines' : List (List Char)} (h : first.Run (lines ++ lines') last) :
    ∃ middle, first.Run lines middle ∧ middle.Run lines' last := by
  induction lines generalizing first with
  | nil => exact ⟨first, .nil first, h⟩
  | cons line lines ih =>
    cases h with
    | cons htakes hrest =>
      obtain ⟨middle, hlines, hlines'⟩ := ih hrest
      exact ⟨middle, .cons htakes hlines, hlines'⟩

/-- **Below the heading of an act** lines add what their kinds weigh, and no characters. -/
theorem Run.adds {first last : Draft} {lines : List (List Char)} (h : first.Run lines last) (htext : w .text = 0)
    (settled : first.Settled) (hacts : first.acts ≠ []) :
    last.acts ≠ [] ∧ last.Settled ∧ last.personae = first.personae ∧
      last.weight w = first.weight w + tally w lines := by
  induction h with
  | nil draft => exact ⟨hacts, settled, rfl, rfl⟩
  | cons htakes _ ih =>
    obtain ⟨hacts, settled, hpersonae, hweight⟩ := htakes.adds htext settled (.inl hacts)
    obtain ⟨hacts, settled, hpersonae', hweight'⟩ := ih settled hacts
    refine ⟨hacts, settled, hpersonae'.trans hpersonae, ?_⟩
    rw [hweight', hweight, tally_cons, Nat.add_assoc]

/-- **Above the first heading of an act** every line introduces a character, and only below it is anything added to the
acts. -/
theorem Run.above {first last : Draft} {lines : List (List Char)} (h : first.Run lines last) (htext : w .text = 0)
    (hacts : first.acts = []) (hspeech : first.speech = none) :
    last.Settled ∧ last.personae.length = first.personae.length + (lines.takeWhile aboveActs).length ∧
      last.weight w = tally w (lines.dropWhile aboveActs) := by
  induction h with
  | nil draft => exact ⟨.of_none hspeech, rfl, by simp [weight, weigh, hacts, hspeech]⟩
  | @cons first middle last line lines htakes hrest ih =>
    by_cases hkind : lineKind line = .act
    -- the list of characters ends here, and what follows is below the heading
    · obtain ⟨hentered, settled, hpersonae, hweight⟩ := htakes.adds htext (.of_none hspeech) (.inr hkind)
      obtain ⟨-, settled, hpersonae', hweight'⟩ := hrest.adds htext settled hentered
      have start : first.weight w = 0 := by simp [weight, weigh, hacts, hspeech]
      have stop : aboveActs line = false := by simp [aboveActs, hkind]
      refine ⟨settled, ?_, ?_⟩
      · simp [hpersonae', hpersonae, stop]
      · simp [hweight', hweight, start, stop]
    · have goes : aboveActs line = true := by simpa [aboveActs] using hkind
      obtain ⟨persona, rfl⟩ := htakes.introduces hacts hkind
      obtain ⟨settled, hlength, hweight⟩ := ih hacts hspeech
      refine ⟨settled, ?_, ?_⟩
      · simp [hlength, goes]
        omega
      · simp [hweight, goes]

theorem Run.keeps {first last : Draft} {lines : List (List Char)} (h : first.Run lines last)
    (settled : first.Settled) : last.Settled ∧ (first.acts ≠ [] → last.acts ≠ []) := by
  induction h with
  | nil draft => exact ⟨settled, id⟩
  | cons htakes _ ih =>
    obtain ⟨settled, hacts⟩ := htakes.keeps settled
    obtain ⟨settled, hacts'⟩ := ih settled
    exact ⟨settled, hacts' ∘ hacts⟩

/-- a run along several parts, at one of them -/
theorem Run.at_mem {α : Type} {f : α → List (List Char)} {items : List α} {first last : Draft}
    (h : first.Run (items.flatMap f) last) (settled : first.Settled) {a : α} (ha : a ∈ items) :
    ∃ here next : Draft, here.Run (f a) next ∧ here.Settled ∧ (first.acts ≠ [] → here.acts ≠ []) := by
  obtain ⟨before, after, rfl⟩ := List.append_of_mem ha
  rw [List.flatMap_append, List.flatMap_cons] at h
  obtain ⟨here, hbefore, hrest⟩ := h.split
  obtain ⟨next, hitem, -⟩ := hrest.split
  obtain ⟨settled, hacts⟩ := hbefore.keeps settled
  exact ⟨here, next, hitem, settled, hacts⟩

theorem eq_of_finish {draft : Draft} {play : Play} (h : draft.finish = .ok play) :
    draft.title = some play.title ∧ play.personae = draft.personae ∧ play.acts = draft.closeSpeech.acts := by
  unfold finish at h
  split at h
  · cases h
  · rename_i htitle
    cases h
    exact ⟨htitle, rfl, rfl⟩

/-- a text is read from its title on -/
theorem steps_of_parse {text : String} {play : Play} (h : Play.parse text = .ok play) :
    ∃ n line rest last, numberedLines text = (n, line) :: rest ∧
      steps ⟨some (String.ofList line), [], [], none⟩ rest = .ok last ∧ last.finish = .ok play := by
  obtain ⟨last, hsteps, hfinish⟩ := bind_eq_ok.1 h
  cases hlines : numberedLines text with
  | nil =>
    rw [hlines] at hsteps
    cases hsteps
    cases hfinish
  | cons title rest =>
    rw [hlines, steps, step_title] at hsteps
    exact ⟨_, _, rest, last, rfl, hsteps, hfinish⟩

theorem run_of_parse {text : String} {play : Play} (h : Play.parse text = .ok play) {line : List Char}
    {lines : List (List Char)} (hlines : inkLines text.toList = line :: lines) :
    ∃ last, Run ⟨some (String.ofList line), [], [], none⟩ lines last ∧ play.personae = last.personae ∧
      play.acts = last.closeSpeech.acts := by
  obtain ⟨n, first, rest, last, hnumbered, hsteps, hfinish⟩ := steps_of_parse h
  rw [← numberedLines_snd, hnumbered] at hlines
  cases hlines
  obtain ⟨-, hpersonae, hacts⟩ := eq_of_finish hfinish
  exact ⟨last, run_of_steps (by simp) hsteps, hpersonae, hacts⟩

/-- **What the lines of a text count is what its play has**: the lines between the title and the first heading of an act
are its characters, and the lines from there on weigh what its acts weigh. -/
theorem counts_of_parse {text : String} {play : Play} (h : Play.parse text = .ok play) {line : List Char}
    {lines : List (List Char)} (hlines : inkLines text.toList = line :: lines) :
    play.personae.length = (lines.takeWhile aboveActs).length ∧
      ∀ w : LineKind → Nat, w .text = 0 → weigh w play.acts = tally w (lines.dropWhile aboveActs) := by
  obtain ⟨last, hrun, hpersonae, hacts⟩ := run_of_parse h hlines
  refine ⟨?_, fun w htext => ?_⟩
  · obtain ⟨-, hlength, -⟩ := hrun.above (w := fun _ => 0) rfl rfl rfl
    rw [hpersonae, hlength, List.length_nil, Nat.zero_add]
  · obtain ⟨settled, -, hweight⟩ := hrun.above htext rfl rfl
    rw [hacts, weigh_closeSpeech settled, hweight]

/-- **The line below a heading is no text** that could go on with a speech. -/
theorem Run.not_text {first last : Draft} {heading line : List Char} {lines : List (List Char)}
    (h : first.Run (heading :: line :: lines) last) (settled : first.Settled)
    (hheading : lineKind heading = .act ∨ first.acts ≠ [] ∧ lineKind heading = .scene) : lineKind line ≠ .text := by
  cases h with
  | cons hfirst hrest =>
    have quiet := hfirst.speech_of_heading hheading
    obtain ⟨hacts, -, -, -⟩ := hfirst.adds (w := fun _ => 0) rfl settled (hheading.symm.imp_left And.left)
    cases hrest with
    | cons hline _ =>
      intro hkind
      cases hline with
      | text _ _ hspeech => exact hspeech quiet
      | persona _ hnil => exact hacts hnil
      | _ => simp_all

end Draft

end Playscript
