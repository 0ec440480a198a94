/-
The lines of a text, each with its line feed.

- `textLines`: a text cut after every line feed; the last line may lack one;
- `flatten_textLines`, `ne_nil_of_mem_textLines`: put together, the lines are the text, and none of them is empty;
- `textLines_take`: the first lines of a text are the lines of the text that they make.
-/
import Playscript.Proofs.Text.Splitting

namespace Playscript

/-- a text cut after every line feed -/
def textLines : List Char → List (List Char)
  | [] => []
  | c :: cs => if c = '\n' then [c] :: textLines cs else Text.extendFirst c (textLines cs)

/-- **The lines of a text are all of it.** -/
theorem flatten_textLines (cs : List Char) : (textLines cs).flatten = cs := by
  induction cs with
  | nil => rfl
  | cons c cs ih =>
    rw [textLines]
    split
    · rw [List.flatten_cons, ih, List.singleton_append]
    · rw [Text.flatten_extendFirst, ih]

theorem ne_nil_of_mem_textLines {cs line : List Char} (h : line ∈ textLines cs) : line ≠ [] := by
  induction cs generalizing line with
  | nil => cases h
  | cons c cs ih =>
    rw [textLines] at h
    split at h
    · rcases List.mem_cons.1 h with rfl | h
      · exact List.cons_ne_nil c []
      · exact ih h
    · cases hlines : textLines cs with
      | nil =>
        rw [hlines] at h
        exact List.mem_singleton.1 h ▸ List.cons_ne_nil c []
      | cons first lines =>
        rw [hlines] at h ih
        rcases List.mem_cons.1 h with rfl | h
        · exact List.cons_ne_nil c first
        · exact ih (List.mem_cons_of_mem first h)

/-- **The first lines of a text are the lines of the text that they make.** -/
theorem textLines_take (cs : List Char) (k : Nat) :
    textLines ((textLines cs).take k).flatten = (textLines cs).take k := by
  induction cs generalizing k with
  | nil => simp [textLines]
  | cons c cs ih =>
    cases k with
    | zero => rfl
    | succ k =>
      rw [textLines]
      split
      · rename_i hc
        rw [List.take_succ_cons, List.flatten_cons, List.singleton_append, textLines, if_pos hc, ih]
      · rename_i hc
        have first : (Text.extendFirst c (textLines cs)).take (k + 1) =
            Text.extendFirst c ((textLines cs).take (k + 1)) := by
          cases textLines cs with
          | nil => simp [Text.extendFirst]
          | cons line lines => rfl
        rw [first, Text.flatten_extendFirst, textLines, if_neg hc, ih]

end Playscript
