/-
Compiling makes one operation of every cue.

- `Line.operations_eq`: the operations of a line are those of its cues, in order;
- `Sound.operation_isSome`: every cue of a sound program has an operation;
- `Sound.lower_covers`, `Sound.operation_at`: so scenes and their spans are equally long, and the operation of a cue
  stands in the row where its position says.
-/
import Playscript.Proofs.Rehearsal.Seeking
import Playscript.Proofs.Script.Lowering
import Playscript.Proofs.Script.Spans

namespace Playscript

/-- the operation of a cue in the `act`th act, counted from one; a conditional of a conditional has none -/
def Cue.operation? (characters : List Ident) (act : Nat) : Cue → Option Operation
  | .direction d => some ⟨none, none, Action.ofDirection characters d⟩
  | .statement speaker s => Operation.ofStatement? characters act (numberOf characters speaker) s

theorem Line.operations_eq (characters : List Ident) (act : Nat) (line : Line) :
    line.operations characters act = line.cues.filterMap (Cue.operation? characters act) := by
  cases line with
  | direction d => rfl
  | speech speaker statements =>
    rw [operations, cues, List.filterMap_map]
    rfl

/-- filtering a list of which everything is kept -/
theorem map_eq_map_some {α β : Type} {f : α → Option β} {as : List α} (h : ∀ a ∈ as, (f a).isSome) :
    as.map f = (as.filterMap f).map some := by
  induction as with
  | nil => rfl
  | cons a as ih =>
    obtain ⟨b, hb⟩ := Option.isSome_iff_exists.1 (h a List.mem_cons_self)
    rw [List.map_cons, ih fun a ha => h a (List.mem_cons_of_mem _ ha), List.filterMap_cons_some hb, List.map_cons, hb]

/-- a statement has an operation unless it is a conditional of a conditional -/
theorem Operation.ofStatement?_isSome {characters : List Ident} {act speaker : Nat} {statement : Statement}
    (h : .nested ∉ statement.references) : (Operation.ofStatement? characters act speaker statement).isSome := by
  cases statement with
  | conditional polarity body =>
    cases body with
    | conditional polarity' body => exact absurd List.mem_cons_self h
    | _ => rfl
  | _ => rfl

theorem operationsByScene_get {program : Program} {i j : Nat} {row : List (List Operation)} {operations : List Operation}
    (hrow : (operationsByScene program.declared program.acts)[i]? = some row) (hget : row[j]? = some operations) :
    ∃ scenes lines, program.linesByScene[i]? = some scenes ∧ scenes[j]? = some lines ∧
      operations = lines.flatMap (Line.operations program.declared (i + 1)) := by
  rw [operationsByScene_eq, List.getElem?_map, List.getElem?_zipIdx, Option.map_map, Option.map_eq_some_iff] at hrow
  obtain ⟨scenes, hscenes, rfl⟩ := hrow
  simp only [Function.comp_apply, List.getElem?_map, Option.map_eq_some_iff] at hget
  obtain ⟨lines, hlines, rfl⟩ := hget
  exact ⟨scenes, lines, hscenes, hlines, by rw [Nat.add_comm 1 i]⟩

theorem forall₂_imp_right {α β : Type} {R S : α → β → Prop} {as : List α} {bs : List β} (h : List.Forall₂ R as bs)
    (himp : ∀ a, ∀ b ∈ bs, R a b → S a b) : List.Forall₂ S as bs := by
  induction h with
  | nil => exact .nil
  | cons hab _ ih =>
    exact .cons (himp _ _ List.mem_cons_self hab) (ih fun a b hb => himp a b (List.mem_cons_of_mem _ hb))

namespace Program.Sound

variable {program : Program} (h : program.Sound)
include h

theorem cue_leads {i j : Nat} {line : Line} (hline : program.HasLine i j line) {speaker : Ident} {s : Statement}
    (hcue : .statement speaker s ∈ line.cues) : ∀ reference ∈ s.references, program.Leads (i + 1) reference := by
  obtain ⟨statements, rfl, hs⟩ := Line.eq_of_statement_mem hcue
  exact h.statement_leads hline hs

/-- **Every cue of a sound program has an operation.** -/
theorem operation_isSome {i j : Nat} {line : Line} (hline : program.HasLine i j line) {cue : Cue}
    (hcue : cue ∈ line.cues) (act : Nat) : (cue.operation? program.declared act).isSome := by
  cases cue with
  | direction d => rfl
  | statement speaker s =>
    exact Operation.ofStatement?_isSome fun hn => h.cue_leads hline hcue _ hn

/-- the operations of a scene are those of its cues, in order -/
theorem operations_eq {i j : Nat} {scenes : List (List Line)} {lines : List Line}
    (hscenes : program.linesByScene[i]? = some scenes) (hlines : scenes[j]? = some lines) (act : Nat) :
    (lines.flatMap Line.cues).map (Cue.operation? program.declared act) =
      (lines.flatMap (Line.operations program.declared act)).map some := by
  have operations : lines.flatMap (Line.operations program.declared act) =
      (lines.flatMap Line.cues).filterMap (Cue.operation? program.declared act) := by
    rw [List.filterMap_flatMap]
    exact List.flatMap_congr fun line _ => line.operations_eq program.declared act
  rw [operations]
  refine map_eq_map_some fun cue hcue => ?_
  obtain ⟨line, hline, hcue⟩ := List.mem_flatMap.1 hcue
  exact h.operation_isSome ⟨scenes, lines, hscenes, hlines, hline⟩ hcue act

/-- **Every span is as long as its scene.** -/
theorem lower_covers : List.Forall₂ (List.Forall₂ Span.Covers) program.lower.acts program.linesByScene := by
  have rows := spanRowsFrom_lengths 0 (operationsByScene program.declared program.acts)
  rw [operationsByScene_eq, List.forall₂_map_right_iff] at rows
  rw [← List.zipIdx_map_fst 1 program.linesByScene, List.forall₂_map_right_iff]
  simp only [lower, operationsByScene_eq]
  refine forall₂_imp_right rows ?_
  rintro spans ⟨scenes, n⟩ hmem hspans
  obtain ⟨-, hscenes⟩ := List.mk_mem_zipIdx_iff_le_and_getElem?_sub.1 hmem
  rw [List.forall₂_map_right_iff] at hspans
  refine forall₂_imp_right hspans fun span lines hlines hspan => ?_
  obtain ⟨j, hj⟩ := List.getElem?_of_mem hlines
  have hlength := congrArg List.length (h.operations_eq hscenes hj n)
  rw [List.length_map, List.length_map] at hlength
  exact hspan.trans hlength.symm

/-- **The operation of a cue stands where its position says.** -/
theorem operation_at {place : Place} {found : Cue} (hcue : program.Cued place found) {spans : List Span} {span : Span}
    (hspans : program.lower.acts[place.act]? = some spans) (hspan : spans[place.scene]? = some span) :
    ∃ operation, found.operation? program.declared (place.act + 1) = some operation ∧
      program.lower.operations[span.start + (program.positionOf place).line]? = some operation := by
  obtain ⟨row, operations, hrow, hget, hitems⟩ := spanRowsFrom_items [] hspans hspan
  obtain ⟨scenes, lines, hscenes, hlines, rfl⟩ := operationsByScene_get hrow hget
  have hat := linesAt_eq hscenes hlines
  have hnth := hcue.standing.nth
  rw [hat] at hnth
  have hmap := congrArg (·[offset lines place.line place.cue]?) (h.operations_eq hscenes hlines (place.act + 1))
  simp only [List.getElem?_map, hnth, Option.map_some] at hmap
  obtain ⟨operation, hoperation, heq⟩ := Option.map_eq_some_iff.1 hmap.symm
  refine ⟨operation, heq.symm, ?_⟩
  have hlt := (List.getElem?_eq_some_iff.1 hoperation).1
  rw [positionOf, hat]
  exact (hitems _ hlt).trans hoperation

end Program.Sound

end Playscript
