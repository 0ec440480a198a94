/-
Lines that have come back from a play once.

- `Line.retold_eq_self`: a formed line in which nobody calls themselves by their own identifier comes back as it is;
- `Line.retold_modest`: in a line that has come back speakers are not called by their identifiers any more;
- `Line.Composable.retold`, `Composable.retold`: and it can be composed again, if whoever it mentions has a name.
-/
import Playscript.Proofs.Conversion.Composing
import Playscript.Proofs.Conversion.RoundTrip
import Playscript.Proofs.Script.Formed

namespace Playscript

/-! ## Lines that come back as they are -/

namespace Value

theorem withSpeakerAsRole_eq_self {speaker : Ident} {value : Value} (h : speaker ∉ value.mentions) :
    value.withSpeakerAsRole speaker = value := by
  induction value with
  | binary op lhs rhs ihl ihr =>
    rw [mentions, List.mem_append, not_or] at h
    rw [withSpeakerAsRole, ihl h.1, ihr h.2]
  | unary op operand ih => rw [withSpeakerAsRole, ih h]
  | character id =>
    have other : id ≠ speaker := fun heq => h (List.mem_singleton.2 heq.symm)
    rw [withSpeakerAsRole, if_neg other]
  | _ => rfl

theorem rename_eq_self {f : Ident → Ident} {value : Value} (h : ∀ id ∈ value.mentions, f id = id) :
    value.rename f = value := by
  induction value with
  | binary op lhs rhs ihl ihr =>
    rw [mentions, List.forall_mem_append] at h
    rw [rename, ihl h.1, ihr h.2]
  | unary op operand ih => rw [rename, ih h]
  | character id => rw [rename, h id (List.mem_singleton_self id)]
  | _ => rfl

theorem told_eq_self {f : Ident → Ident} {speaker : Ident} {value : Value} (folded : value.Folded)
    (modest : speaker ∉ value.mentions) (fixed : ∀ id ∈ value.mentions, f id = id) :
    (value.spokenBy speaker).rename f = value := by
  rw [spokenBy, withSpeakerAsRole_eq_self modest, canonical_eq_self_iff.2 folded, rename_eq_self fixed]

end Value

theorem Statement.told_eq_self {f : Ident → Ident} {speaker : Ident} {statement : Statement}
    (formed : statement.Formed) (modest : speaker ∉ statement.mentions)
    (fixed : ∀ id ∈ statement.mentions, f id = id) : (statement.canonical speaker).rename f = statement := by
  induction statement with
  | assign value => rw [canonical, rename, Value.told_eq_self formed modest fixed]
  | remember value => rw [canonical, rename, Value.told_eq_self formed modest fixed]
  | compare c =>
    rw [mentions, List.mem_append, not_or] at modest
    rw [mentions, List.forall_mem_append] at fixed
    simp only [canonical, rename, Value.told_eq_self formed.1 modest.1 fixed.1,
      Value.told_eq_self formed.2 modest.2 fixed.2]
  | conditional polarity body ih => rw [canonical, rename, ih formed.2 modest fixed]
  | _ => rfl

namespace Line

/-- nobody speaks of themselves by their own identifier -/
def Modest : Line → Prop
  | .direction _ => True
  | .speech speaker statements => ∀ s ∈ statements, speaker ∉ s.mentions

/-- **A formed and modest line comes back as it is**, if those whom it mentions keep their identifiers. -/
theorem retold_eq_self {f : Ident → Ident} {line : Line} (formed : line.Formed) (modest : line.Modest)
    (fixed : ∀ id ∈ line.mentions, f id = id) : line.retold f = line := by
  cases line with
  | direction d =>
    have listed : ∀ ids : List Ident, (∀ id ∈ ids, f id = id) → ids.map f = ids :=
      fun ids h => (List.map_congr_left h).trans (List.map_id ids)
    cases d with
    | enter ids => rw [retold, StageDirection.rename, listed ids fixed]
    | exit id => rw [retold, StageDirection.rename, fixed id (List.mem_singleton_self id)]
    | exeunt ids => rw [retold, StageDirection.rename, listed ids fixed]
  | speech speaker statements =>
    have same : statements.map (fun s => (s.canonical speaker).rename f) = statements.map id := by
      refine List.map_congr_left fun s hs => Statement.told_eq_self (formed s hs) (modest s hs) fun id hid => ?_
      exact fixed id (mem_mentions_of_mem hs hid)
    rw [retold, same, List.map_id, fixed speaker List.mem_cons_self]

/-- **Speakers are called by role** in a line that has come back, if no two characters have become one. -/
theorem retold_modest {f : Ident → Ident} {line : Line}
    (apart : ∀ id ∈ line.mentions, ∀ other ∈ line.mentions, f id = f other → id = other) : (line.retold f).Modest := by
  cases line with
  | direction d => trivial
  | speech speaker statements =>
    intro told htold hspeaker
    obtain ⟨s, hs, rfl⟩ := List.mem_map.1 htold
    obtain ⟨id, hid, hne, hsame⟩ := Statement.mem_mentions_told_iff.1 hspeaker
    exact hne (apart id (mem_mentions_of_mem hs hid) speaker List.mem_cons_self hsame)

end Line

/-! ## Composing again -/

section Composable

variable {lexicon : Lexicon} {cast next : Cast} {f : Ident → Ident}

theorem Statement.numerals_told (f : Ident → Ident) (speaker : Ident) (statement : Statement) :
    ((statement.canonical speaker).rename f).numerals = statement.numerals := by
  induction statement with
  | conditional polarity body ih => exact ih
  | _ => rfl

theorem Statement.Composable.told {speaker : Ident} {statement : Statement}
    (h : statement.Composable lexicon cast speaker)
    (named : ∀ id ∈ statement.mentions, ∃ name, next.nameOf (f id) = some name) :
    ((statement.canonical speaker).rename f).Composable lexicon next (f speaker) := by
  refine ⟨fun polarity inner body heq => ?_, fun id hid _ => ?_, ?_⟩
  · cases statement with
    | conditional polarity' body' =>
      cases body' with
      | conditional inner' body' => exact h.flat polarity' inner' body' rfl
      | _ => cases heq
    | _ => cases heq
  · obtain ⟨own, hown, -, rfl⟩ := Statement.mem_mentions_told_iff.1 hid
    exact named own hown
  · rw [Statement.numerals_told]
    exact h.numbered

/-- **A line that could be composed can be composed again** when it has come back. -/
theorem Line.Composable.retold {line : Line} (h : line.Composable lexicon cast)
    (named : ∀ id ∈ line.mentions, ∃ name, next.nameOf (f id) = some name) :
    (line.retold f).Composable lexicon next := by
  cases line with
  | direction d =>
    refine ⟨fun heq => ?_, fun id hid => ?_⟩
    · cases d with
      | enter ids =>
        refine h.1 ?_
        rw [StageDirection.rename, StageDirection.enter.injEq, List.map_eq_nil_iff] at heq
        rw [heq]
      | _ => cases heq
    · have mentioned : id ∈ ((Line.direction d).retold f).mentions := hid
      obtain ⟨own, hown, rfl⟩ := Line.mem_mentions_retold_iff.1 mentioned
      exact named own hown
  | speech speaker statements =>
    refine ⟨named speaker List.mem_cons_self, fun told htold => ?_⟩
    obtain ⟨s, hs, rfl⟩ := List.mem_map.1 htold
    exact (h.2 s hs).told fun id hid => named id (Line.mem_mentions_of_mem hs hid)

namespace Conversion

theorem Composable.retold {acts : List Act} (h : Composable lexicon cast acts)
    (named : ∀ act ∈ acts, ∀ scene ∈ act.scenes, ∀ line ∈ scene.lines, ∀ id ∈ line.mentions,
      ∃ name, next.nameOf (f id) = some name) (restore : String → String) :
    Composable lexicon next (acts.map (retoldAct restore f)) := by
  refine ⟨?_, List.forall_mem_map.2 fun act hact => ?_, ?_⟩
  · rw [List.length_map]
    exact h.counted
  · rw [retoldAct, List.length_map]
    exact h.scenes act hact
  · refine List.forall_mem_map.2 fun act hact => List.forall_mem_map.2 fun scene hscene =>
      List.forall_mem_map.2 fun line hline => ?_
    exact (h.lines act hact scene hscene line hline).retold (named act hact scene hscene line hline)

end Conversion

end Composable

end Playscript
