/-
Spans of rows laid out one after the other.

- `spanRowsFrom_lengths`: there is a span for every scene, as long as the scene;
- `spanRowsFrom_items`: a span holds what the scene holds that it stands for, in order.
-/
import Playscript.Script.Compile
import Mathlib.Algebra.Ring.Nat
import Mathlib.Data.List.Forall2

namespace Playscript

variable {α : Type}

theorem spanRowsFrom_cons (start : Nat) (row : List Nat) (rows : List (List Nat)) :
    spanRowsFrom start (row :: rows) = spansFrom start row :: spanRowsFrom (start + row.sum) rows := rfl

/-- every span is as long as what it stands for -/
theorem spanRowsFrom_lengths (start : Nat) (rows : List (List (List α))) :
    List.Forall₂ (List.Forall₂ fun span items => span.length = items.length)
      (spanRowsFrom start (rows.map fun row => row.map List.length)) rows := by
  have lengths : ∀ (row : List (List α)) (start : Nat),
      List.Forall₂ (fun span items => span.length = items.length) (spansFrom start (row.map List.length)) row := by
    intro row
    induction row with
    | nil => exact fun _ => .nil
    | cons items row ih => exact fun start => .cons (Nat.add_sub_cancel_left _ _) (ih _)
  induction rows generalizing start with
  | nil => exact .nil
  | cons row rows ih => exact .cons (lengths row start) (ih _)

/-- the spans of a row hold its items, whatever comes before and after the row -/
theorem spansFrom_items (before : List α) {row : List (List α)} {j : Nat} {span : Span}
    (hspan : (spansFrom before.length (row.map List.length))[j]? = some span) :
    ∃ items, row[j]? = some items ∧
      ∀ k < items.length, ∀ after, (before ++ (row.flatten ++ after))[span.start + k]? = items[k]? := by
  induction row generalizing before j with
  | nil => cases hspan
  | cons items row ih =>
    cases j with
    | zero =>
      cases hspan
      refine ⟨items, rfl, fun k hk after => ?_⟩
      rw [List.getElem?_append_right (Nat.le_add_right _ _), Nat.add_sub_cancel_left, List.flatten_cons,
        List.append_assoc, List.getElem?_append_left hk]
    | succ j =>
      rw [List.map_cons, spansFrom, List.getElem?_cons_succ, ← List.length_append] at hspan
      obtain ⟨found, hfound, hitems⟩ := ih (before ++ items) hspan
      refine ⟨found, hfound, fun k hk after => ?_⟩
      rw [← hitems k hk after, List.flatten_cons, List.append_assoc, List.append_assoc]

/-- **A span holds what the scene holds that it stands for**, in order. -/
theorem spanRowsFrom_items (before : List α) {rows : List (List (List α))} {i j : Nat} {spans : List Span} {span : Span}
    (hspans : (spanRowsFrom before.length (rows.map fun row => row.map List.length))[i]? = some spans)
    (hspan : spans[j]? = some span) :
    ∃ row items, rows[i]? = some row ∧ row[j]? = some items ∧
      ∀ k < items.length, (before ++ rows.flatten.flatten)[span.start + k]? = items[k]? := by
  induction rows generalizing before i with
  | nil => cases hspans
  | cons row rows ih =>
    cases i with
    | zero =>
      cases hspans
      obtain ⟨items, hfound, hitems⟩ := spansFrom_items before hspan
      refine ⟨row, items, rfl, hfound, fun k hk => ?_⟩
      rw [← hitems k hk rows.flatten.flatten, List.flatten_cons, List.flatten_append]
    | succ i =>
      rw [List.map_cons, spanRowsFrom_cons, List.getElem?_cons_succ, ← List.length_flatten, ← List.length_append] at hspans
      obtain ⟨found, items, hfound, hget, hitems⟩ := ih (before ++ row.flatten) hspans
      refine ⟨found, items, hfound, hget, fun k hk => ?_⟩
      rw [← hitems k hk, List.flatten_cons, List.flatten_append, List.append_assoc]

end Playscript
