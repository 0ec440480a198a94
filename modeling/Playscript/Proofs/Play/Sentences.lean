/-
Sentences in running text.

- `IsSentence`: words with single spaces between them, and one mark at the end;
- `splitSentences_intercalate`: sentences written one after the other are cut apart again;
- `spaced_sentences`: and they are running text that may be broken into lines anywhere.
-/
import Playscript.Proofs.Play.Cutting
import Playscript.Proofs.Play.Drafts

namespace Playscript

/-- a character that means nothing to a reader of plays -/
def isSimple (c : Char) : Bool := Text.isAscii c && isSpoken c && !isTerminator c

/-- words of such characters with single spaces between them -/
def Running (text : String) : Prop := Text.Spaced isSimple text.toList

instance (text : String) : Decidable (Running text) := inferInstanceAs (Decidable (Text.Spaced isSimple text.toList))

theorem isSpoken_of_isSimple {c : Char} (h : isSimple c = true) : isSpoken c = true := by
  simp only [isSimple, Bool.and_eq_true] at h
  exact h.1.2

theorem isTerminator_of_isSimple {c : Char} (h : isSimple c = true) : isTerminator c = false := by
  simp only [isSimple, Bool.and_eq_true, Bool.not_eq_true'] at h
  exact h.2

theorem isSpoken_of_isTerminator {c : Char} (h : isTerminator c = true) : isSpoken c = true ∧ c ≠ ' ' := by
  simp only [isTerminator, Bool.or_eq_true, beq_iff_eq] at h
  rcases h with (rfl | rfl) | rfl <;> decide

theorem running_append_space {a b : String} : Running (a ++ " " ++ b) ↔ Running a ∧ Running b := by
  have parts : (a ++ " " ++ b).toList = a.toList ++ ' ' :: b.toList := by simp [String.toList_append]
  rw [Running, parts, Text.spaced_append_space]
  rfl

theorem running_append_and {a b : String} : Running (a ++ " and " ++ b) ↔ Running a ∧ Running b := by
  have parts : a ++ " and " ++ b = a ++ " " ++ "and" ++ " " ++ b := by simp [← String.toList_inj]
  have word : Running "and" := by decide
  rw [parts, running_append_space, running_append_space, and_iff_left word]

/-- a comma may follow running text -/
theorem Running.comma {text : String} (h : Running text) : Running (text ++ ",") := by
  have parts : (text ++ ",").toList = text.toList ++ [','] := by simp
  rw [Running, parts]
  exact Text.Spaced.concat h (by decide) (by decide)

theorem running_intercalate {words : List String} (hne : words ≠ []) (h : ∀ word ∈ words, Running word) :
    Running (" ".intercalate words) := by
  induction words with
  | nil => exact absurd rfl hne
  | cons word words ih =>
    cases words with
    | nil => simpa using h word List.mem_cons_self
    | cons next words =>
      rw [String.intercalate_cons_cons, running_append_space]
      exact ⟨h word List.mem_cons_self, ih (by simp) fun w hw => h w (List.mem_cons_of_mem word hw)⟩

/-- running text and one mark that ends it -/
def IsSentence (sentence : String) : Prop :=
  ∃ body mark, sentence.toList = body ++ [mark] ∧ Text.Spaced isSimple body ∧ isTerminator mark = true

theorem Running.isSentence {text : String} (h : Running text) {mark : String} (hmark : mark ∈ [".", "?", "!"]) :
    IsSentence (text ++ mark) := by
  simp only [List.mem_cons, List.not_mem_nil, or_false] at hmark
  rcases hmark with rfl | rfl | rfl
  · exact ⟨text.toList, '.', String.toList_append, h, rfl⟩
  · exact ⟨text.toList, '?', String.toList_append, h, rfl⟩
  · exact ⟨text.toList, '!', String.toList_append, h, rfl⟩

theorem not_isTerminator_of_spaced {body : List Char} (h : Text.Spaced isSimple body) :
    ∀ c ∈ body, isTerminator c = false := by
  intro c hc
  rcases h.mem hc with rfl | hsimple
  · decide
  · exact isTerminator_of_isSimple hsimple

/-! ## Cutting -/

theorem cutApart_of_isSentence {sentences : List String} (h : ∀ sentence ∈ sentences, IsSentence sentence) :
    CutApart (sentences.map String.toList) := by
  induction sentences with
  | nil => exact .nil
  | cons sentence sentences ih =>
    obtain ⟨body, mark, hsentence, hbody, hmark⟩ := h sentence List.mem_cons_self
    have tight := hbody.tight fun c hc => isBlank_of_isSpoken (isSpoken_of_isSimple hc)
    rw [List.map_cons, hsentence]
    exact .ended (.append tight.first ⟨mark, rfl, isBlank_of_isTerminator hmark⟩) (not_isTerminator_of_spaced hbody)
      hmark (ih fun s hs => h s (List.mem_cons_of_mem sentence hs))

/-- **Sentences written one after the other are cut apart again.** -/
theorem splitSentences_intercalate {sentences : List String} (h : ∀ sentence ∈ sentences, IsSentence sentence) :
    splitSentences (" ".intercalate sentences) = sentences :=
  splitSentences_of_cutApart (cutApart_of_isSentence h)

theorem IsSentence.spaced {sentence : String} (h : IsSentence sentence) : Text.Spaced isSpoken sentence.toList := by
  obtain ⟨body, mark, hsentence, hbody, hmark⟩ := h
  obtain ⟨hspoken, hspace⟩ := isSpoken_of_isTerminator hmark
  rw [hsentence]
  exact (hbody.mono fun c hc => isSpoken_of_isSimple hc).concat hspace hspoken

/-- **Sentences may be spoken in one go.** -/
theorem spaced_sentences {sentences : List String} (hne : sentences ≠ [])
    (h : ∀ sentence ∈ sentences, IsSentence sentence) :
    Text.Spaced isSpoken (" ".intercalate sentences).toList := by
  induction sentences with
  | nil => exact absurd rfl hne
  | cons sentence sentences ih =>
    have first := (h sentence List.mem_cons_self).spaced
    cases sentences with
    | nil => rwa [String.intercalate_singleton]
    | cons next sentences =>
      have parts : (" ".intercalate (sentence :: next :: sentences)).toList =
          sentence.toList ++ ' ' :: (" ".intercalate (next :: sentences)).toList := by
        rw [String.intercalate_cons_cons]
        simp [String.toList_append]
      rw [parts, Text.spaced_append_space]
      exact ⟨first, ih (by simp) fun s hs => h s (List.mem_cons_of_mem sentence hs)⟩

end Playscript
