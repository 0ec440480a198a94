/-
Which programs have plays.

- `Line.Composable`, `composeLine_succeeds`: whether a line can be composed does not depend on the words that are chosen:
  whoever it mentions must have a name, except the speaker among the statements, and acts and scenes a numeral;
- `Composable`, `composeActs_succeeds`: the same for all acts of a program, which need numerals themselves.
-/
import Playscript.Conversion.Dramatize
import Playscript.Proofs.Outcome
import Playscript.Proofs.Sentence.Directions
import Playscript.Proofs.Sentence.RoundTrip

namespace Playscript

/-! ## Choices in a row -/

namespace Choosing

theorem succeeds_mapM {ε α β : Type} {items : List α} {f : α → Choosing ε β} {A : α → Prop}
    (h : ∀ a ∈ items, Succeeds (f a) (A a)) : Succeeds (items.mapM f) (∀ a ∈ items, A a) := by
  induction items with
  | nil => exact (succeeds_pure _).congr (by simp)
  | cons a items ih =>
    rw [List.mapM_cons]
    have first := h a List.mem_cons_self
    have rest := ih fun a' h' => h a' (List.mem_cons_of_mem a h')
    refine (first.bind fun b => rest.bind fun bs => succeeds_pure _).congr ?_
    rw [List.forall_mem_cons, and_true]

end Choosing

/-! ## Lines -/

/-- a line that can be composed -/
def Line.Composable (lexicon : Lexicon) (cast : Cast) : Line → Prop
  | .direction d => d ≠ .enter [] ∧ ∀ id ∈ d.mentions, ∃ name, cast.nameOf id = some name
  | .speech speaker statements =>
    (∃ name, cast.nameOf speaker = some name) ∧ ∀ s ∈ statements, s.Composable lexicon cast speaker

namespace Direction

variable {cast : Cast}

theorem namesOf_isOk_iff {ids : List Ident} :
    (∃ names, namesOf cast ids = .ok names) ↔ ∀ id ∈ ids, ∃ name, cast.nameOf id = some name := by
  induction ids with
  | nil => exact ⟨fun _ => nofun, fun _ => ⟨[], rfl⟩⟩
  | cons id ids ih =>
    rw [List.forall_mem_cons, ← ih]
    constructor
    · rintro ⟨names, hnames⟩
      obtain ⟨name, rest, -, hname, hrest⟩ := namesOf_cons_eq_ok hnames
      exact ⟨⟨name, hname⟩, rest, hrest⟩
    · rintro ⟨⟨name, hname⟩, rest, hrest⟩
      refine ⟨name :: rest, ?_⟩
      rw [namesOf, nameOf, hname, hrest]
      rfl

theorem isOk_bind_pure {ε α β : Type} {x : Except ε α} {f : α → β} :
    (∃ b, (x >>= fun a => pure (f a)) = .ok b) ↔ ∃ a, x = .ok a := by
  constructor
  · rintro ⟨b, hb⟩
    obtain ⟨a, ha, -⟩ := bind_eq_ok.1 hb
    exact ⟨a, ha⟩
  · rintro ⟨a, rfl⟩
    exact ⟨f a, rfl⟩

/-- a direction has a text exactly when whoever it is about has a name, and somebody enters if it is an entrance -/
theorem compose_isOk_iff {d : StageDirection} :
    (∃ text, compose cast d = .ok text) ↔ d ≠ .enter [] ∧ ∀ id ∈ d.mentions, ∃ name, cast.nameOf id = some name := by
  have several : ∀ verb (ids : List Ident),
      (∃ text, (namesOf cast ids >>= fun names => pure (verb ++ listed names)) = .ok text) ↔
        ∀ id ∈ ids, ∃ name, cast.nameOf id = some name :=
    fun verb ids => isOk_bind_pure.trans namesOf_isOk_iff
  cases d with
  | enter ids =>
    cases ids with
    | nil =>
      refine ⟨fun h => ?_, fun h => absurd rfl h.1⟩
      obtain ⟨text, htext⟩ := h
      cases htext
    | cons id ids => exact (several "Enter " (id :: ids)).trans (iff_and_self.2 fun _ => by simp)
  | exit id =>
    have one : (∃ name, nameOf cast id = .ok name) ↔ ∃ name, cast.nameOf id = some name :=
      exists_congr fun name => ⟨nameOf_eq_ok, fun h => by rw [nameOf, h]⟩
    refine (isOk_bind_pure.trans one).trans ?_
    simp [StageDirection.mentions]
  | exeunt ids =>
    cases ids with
    | nil => exact ⟨fun _ => ⟨by simp, List.forall_mem_nil _⟩, fun _ => ⟨_, rfl⟩⟩
    | cons id ids => exact (several "Exeunt " (id :: ids)).trans (iff_and_self.2 fun _ => by simp)

end Direction

namespace Conversion

open Choosing

/-- acts that can be composed: there are numerals for all of them and for their scenes, and lines for all lines -/
structure Composable (lexicon : Lexicon) (cast : Cast) (acts : List Act) : Prop where
  counted : acts.length ≤ lexicon.numerals.length
  scenes : ∀ act ∈ acts, act.scenes.length ≤ lexicon.numerals.length
  lines : ∀ act ∈ acts, ∀ scene ∈ act.scenes, ∀ line ∈ scene.lines, line.Composable lexicon cast

section Succeeds

variable {vocabulary : Vocabulary}

theorem numbered_succeeds (n : Nat) :
    Succeeds (Dramatize.numbered vocabulary n) (1 ≤ n ∧ n ≤ vocabulary.lexicon.numerals.length) := by
  have counted := Lexicon.numeral_isOk_iff vocabulary.lexicon n
  unfold Dramatize.numbered
  cases hnumeral : vocabulary.lexicon.numeral n with
  | ok numeral => exact (succeeds_pure _).congr (by rw [← counted, hnumeral]; simp)
  | error cause => exact (succeeds_throw _).congr (by rw [← counted, hnumeral]; simp)

/-- items that are numbered from one on have what they need exactly if there are not too many -/
theorem forall_mem_zipIdx_one {α : Type} {items : List α} {A : α → Prop} {most : Nat} :
    (∀ item ∈ items.zipIdx 1, A item.1 ∧ 1 ≤ item.2 ∧ item.2 ≤ most) ↔ (∀ a ∈ items, A a) ∧ items.length ≤ most := by
  constructor
  · intro h
    refine ⟨fun a ha => ?_, ?_⟩
    · obtain ⟨i, hi⟩ := List.getElem?_of_mem ha
      have hmem : (a, i + 1) ∈ items.zipIdx 1 :=
        List.mk_mem_zipIdx_iff_le_and_getElem?_sub.2 ⟨Nat.le_add_left _ _, hi⟩
      exact (h _ hmem).1
    · cases hitems : items.length with
      | zero => exact Nat.zero_le _
      | succ i =>
        have hlt : i < items.length := by omega
        have hlast : items[i]? = some items[i] := List.getElem?_eq_getElem hlt
        have hmem : (items[i], i + 1) ∈ items.zipIdx 1 :=
          List.mk_mem_zipIdx_iff_le_and_getElem?_sub.2 ⟨Nat.le_add_left _ _, hlast⟩
        exact (h _ hmem).2.2
  · rintro ⟨hA, hlength⟩ ⟨a, n⟩ hmem
    obtain ⟨hle, hget⟩ := List.mk_mem_zipIdx_iff_le_and_getElem?_sub.1 hmem
    have hlt := (List.getElem?_eq_some_iff.1 hget).1
    exact ⟨hA a (List.mem_of_getElem? hget), hle, by omega⟩

variable (h : vocabulary.Ample)
include h

theorem composeSpeech_succeeds (place : Location) (speaker : Ident) (statements : List Statement) :
    Succeeds (Dramatize.composeSpeech vocabulary place speaker statements)
      ((Line.speech speaker statements).Composable vocabulary.lexicon vocabulary.cast) := by
  unfold Dramatize.composeSpeech Line.Composable
  cases hname : vocabulary.cast.nameOf speaker with
  | none => exact (succeeds_throw _).congr (by simp [hname])
  | some name =>
    have sentences := succeeds_mapM fun s (_ : s ∈ statements) => Sentence.compose_succeeds h speaker s
    refine ((sentences.adapt _).bind fun told => succeeds_pure _).congr ?_
    simp [hname]

/-- **A line can be composed or not**, whatever words are chosen. -/
theorem composeLine_succeeds (place : Location) (line : Line) :
    Succeeds (Dramatize.composeLine vocabulary place line) (line.Composable vocabulary.lexicon vocabulary.cast) := by
  cases line with
  | direction d =>
    have composed := @Direction.compose_isOk_iff vocabulary.cast d
    unfold Dramatize.composeLine Line.Composable
    dsimp only
    cases hcompose : Direction.compose vocabulary.cast d with
    | ok text => exact (succeeds_pure _).congr (by rw [← composed, hcompose]; simp)
    | error cause => exact (succeeds_throw _).congr (by rw [← composed, hcompose]; simp)
  | speech speaker statements => exact composeSpeech_succeeds h place speaker statements

theorem composeScene_succeeds (place : Location) (scene : Scene) :
    Succeeds (Dramatize.composeScene vocabulary place scene)
      ((∀ line ∈ scene.lines, line.Composable vocabulary.lexicon vocabulary.cast) ∧
        1 ≤ place.scene ∧ place.scene ≤ vocabulary.lexicon.numerals.length) := by
  have lines := succeeds_mapM fun line (_ : line ∈ scene.lines) => composeLine_succeeds h place line
  refine (lines.bind fun told => (numbered_succeeds place.scene).bind fun numeral => succeeds_pure _).congr ?_
  rw [and_true]

theorem composeAct_succeeds (n : Nat) (act : Act) :
    Succeeds (Dramatize.composeAct vocabulary n act)
      (((∀ scene ∈ act.scenes, ∀ line ∈ scene.lines, line.Composable vocabulary.lexicon vocabulary.cast) ∧
        act.scenes.length ≤ vocabulary.lexicon.numerals.length) ∧ 1 ≤ n ∧ n ≤ vocabulary.lexicon.numerals.length) := by
  have scenes := succeeds_mapM fun item (_ : item ∈ act.scenes.zipIdx 1) => composeScene_succeeds h ⟨n, item.2⟩ item.1
  refine (scenes.bind fun told => (numbered_succeeds n).bind fun numeral => succeeds_pure _).congr ?_
  rw [and_true]
  exact and_congr_left fun _ => forall_mem_zipIdx_one (A := fun scene : Scene =>
    ∀ line ∈ scene.lines, line.Composable vocabulary.lexicon vocabulary.cast)

/-- **Acts can be composed or not**, whatever words are chosen. -/
theorem composeActs_succeeds (acts : List Act) :
    Succeeds (Dramatize.composeActs vocabulary acts) (Composable vocabulary.lexicon vocabulary.cast acts) := by
  refine (succeeds_mapM fun item (_ : item ∈ acts.zipIdx 1) => composeAct_succeeds h item.2 item.1).congr ?_
  refine (forall_mem_zipIdx_one (A := fun act : Act =>
    (∀ scene ∈ act.scenes, ∀ line ∈ scene.lines, line.Composable vocabulary.lexicon vocabulary.cast) ∧
      act.scenes.length ≤ vocabulary.lexicon.numerals.length)).trans ?_
  exact ⟨fun ⟨hacts, hlength⟩ => ⟨hlength, fun act hact => (hacts act hact).2, fun act hact => (hacts act hact).1⟩,
    fun composable => ⟨fun act hact => ⟨composable.lines act hact, composable.scenes act hact⟩, composable.counted⟩⟩

end Succeeds

end Conversion

end Playscript
