/-
The words of a text that is put together from parts.

- `splitBlank_append_blank`: a blank between two texts keeps their words apart;
- `ofBody_append_space`: so the words of two texts with a space between them are the words of either, in order;
- `ofText_terminated`: the mark at the end of a sentence is no part of its last word, whatever stands before it.
-/
import Playscript.Words

namespace Playscript.Text

theorem splitBlank_ne_nil {c : Char} (h : isBlank c = false) (cs : List Char) : splitBlank (c :: cs) ≠ [] := by
  simp only [splitBlank, h, Bool.false_eq_true, if_false]
  split
  · simp
  · split
    · simp
    · cases splitBlank _ <;> simp [extendFirst]

theorem extendFirst_append (c : Char) {ws : List (List Char)} (h : ws ≠ []) (vs : List (List Char)) :
    extendFirst c (ws ++ vs) = extendFirst c ws ++ vs := by
  cases ws with
  | nil => exact absurd rfl h
  | cons w ws => rfl

theorem flatten_extendFirst (c : Char) (ws : List (List Char)) : (extendFirst c ws).flatten = c :: ws.flatten := by
  cases ws <;> rfl

/-- **A blank keeps words apart.** -/
theorem splitBlank_append_blank (cs : List Char) {b : Char} (hb : isBlank b = true) (ds : List Char) :
    splitBlank (cs ++ b :: ds) = splitBlank cs ++ splitBlank ds := by
  induction cs with
  | nil => exact splitBlank_cons_blank hb ds
  | cons c cs ih =>
    cases hc : isBlank c with
    | true =>
      rw [List.cons_append, splitBlank_cons_blank hc, splitBlank_cons_blank hc, ih]
    | false =>
      cases cs with
      | nil => simp [splitBlank, hc, hb]
      | cons d cs =>
        cases hd : isBlank d with
        | true =>
          rw [List.cons_append] at ih
          simp only [List.cons_append, splitBlank, hc, hd, Bool.false_eq_true, if_false, if_true] at ih ⊢
          rw [ih]
        | false =>
          have step : ∀ es, splitBlank (c :: d :: es) = extendFirst c (splitBlank (d :: es)) := by
            intro es
            rw [splitBlank]
            simp [hc, hd]
          rw [List.cons_append, List.cons_append, step, step, ← extendFirst_append c (splitBlank_ne_nil hd cs),
            ← ih, List.cons_append]

theorem splitBlank_dropBlankFront (cs : List Char) : splitBlank (dropBlankFront cs) = splitBlank cs := by
  induction cs with
  | nil => rfl
  | cons c cs ih =>
    cases hc : isBlank c with
    | true => rw [splitBlank_cons_blank hc, ← ih]; simp [dropBlankFront, hc]
    | false => simp [dropBlankFront, hc]

theorem mem_intercalate {sep : List Char} {words : List (List Char)} {c : Char} (h : c ∈ sep.intercalate words) :
    c ∈ sep ∨ ∃ word ∈ words, c ∈ word := by
  induction words with
  | nil => cases h
  | cons word words ih =>
    cases words with
    | nil =>
      rw [List.intercalate_singleton] at h
      exact .inr ⟨word, List.mem_cons_self, h⟩
    | cons next words =>
      rw [List.intercalate_cons_cons, List.mem_append, List.mem_append] at h
      rcases h with (h | h) | h
      · exact .inr ⟨word, List.mem_cons_self, h⟩
      · exact .inl h
      · exact (ih h).imp_right fun ⟨w, hw, hc⟩ => ⟨w, List.mem_cons_of_mem _ hw, hc⟩

/-- a mark at the end of a text stays there when the text is trimmed -/
theorem trimChars_concat (cs : List Char) {t : Char} (ht : isBlank t = false) :
    trimChars (cs ++ [t]) = dropBlankFront cs ++ [t] := by
  have front : dropBlankFront (cs ++ [t]) = dropBlankFront cs ++ [t] := by
    unfold dropBlankFront
    induction cs with
    | nil => simp [ht]
    | cons c cs ih => cases hc : isBlank c <;> simp_all
  rw [trimChars, front]
  simp [dropBlankBack, ht]

theorem trimChars_eq_self {first : Char} {rest : List Char} (hfirst : isBlank first = false) {last : Char}
    (hget : (first :: rest).getLast? = some last) (hlast : isBlank last = false) :
    trimChars (first :: rest) = first :: rest := by
  obtain ⟨front, hfront⟩ := List.getLast?_eq_some_iff.1 hget
  have keep : dropBlankFront (first :: rest) = first :: rest := by simp [dropBlankFront, hfirst]
  rw [trimChars, keep, hfront]
  simp [dropBlankBack, hlast]

end Playscript.Text

namespace Playscript

theorem isBlank_of_isTerminator {t : Char} (h : isTerminator t = true) : Text.isBlank t = false := by
  simp only [isTerminator, Bool.or_eq_true, beq_iff_eq] at h
  rcases h with (rfl | rfl) | rfl <;> decide

namespace Words

theorem dropTerminator_concat (cs : List Char) {t : Char} (ht : isTerminator t = true) :
    dropTerminator (cs ++ [t]) = cs := by
  simp [dropTerminator, ht]

/-- the words of a text without a mark at its end, commas apart -/
def ofBody (body : String) : Words := (Text.splitBlank body.toList).flatMap ofPiece

/-- **The mark at the end of a sentence is dropped**, and nothing else. -/
theorem ofText_terminated (body : String) {t : String} {c : Char} (hc : t.toList = [c])
    (ht : isTerminator c = true) : ofText (body ++ t) = ofBody body := by
  rw [ofText, String.toList_append, hc, Text.trimChars_concat _ (isBlank_of_isTerminator ht),
    dropTerminator_concat _ ht, Text.splitBlank_dropBlankFront, ofBody]

theorem ofBody_append_space (s t : String) : ofBody (s ++ " " ++ t) = ofBody s ++ ofBody t := by
  simp only [ofBody, String.toList_append, List.append_assoc]
  rw [show " ".toList = [' '] from rfl, List.singleton_append, Text.splitBlank_append_blank _ (by decide),
    List.flatMap_append]

end Words

end Playscript
