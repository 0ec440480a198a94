/-
The standard vocabulary is written as running text.

- `standard_prints`: its words, names and numerals have no character that a reader of plays looks for;
- `running_text`: so a phrase made of its words and names is running text too, however deep it is.
-/
import Playscript.Proofs.Lexicon.Standard
import Playscript.Proofs.Phrase.Reading
import Playscript.Proofs.Play.Legible

namespace Playscript

namespace Lexicon

/-- how the words of a lexicon may stand in a play -/
structure Prints (lexicon : Lexicon) : Prop where
  words : ∀ entry ∈ lexicon.entries, Running entry.1
  names : ∀ name ∈ lexicon.cast, Nameable name
  numerals : ∀ numeral ∈ lexicon.numerals, IsNumeral numeral

theorem standard_prints : standard.Prints where
  words := by decide +kernel
  names := by
    have running : ∀ name ∈ standard.cast, Running name := by decide +kernel
    have no_comma : ∀ name ∈ standard.cast, ',' ∉ name.toList := by decide +kernel
    have no_heading : ∀ name ∈ standard.cast, ∀ keyword ∈ ["Act", "Scene"],
        Text.sameFolded (name.toList.take keyword.length) (keyword.toList.take name.length) = false := by
      decide +kernel
    exact fun name h => ⟨running name h, no_comma name h, no_heading name h⟩
  numerals := by
    have running : ∀ numeral ∈ standard.numerals, Running numeral := by decide +kernel
    have one_word : ∀ numeral ∈ standard.numerals, ' ' ∉ numeral.toList := by decide +kernel
    exact fun numeral h => ⟨running numeral h, one_word numeral h⟩

end Lexicon

namespace NounPhrase

/-- **A phrase is running text** if its words and names are. -/
theorem running_text {lexicon : Lexicon} (hwords : ∀ entry ∈ lexicon.entries, Running entry.1) {names : List String}
    (hnames : ∀ name ∈ names, Running name) {phrase : NounPhrase} (h : phrase.Over lexicon names) :
    Running phrase.text := by
  induction phrase with
  | nothing => exact (by decide : Running "nothing")
  | noun adjectives word =>
    obtain ⟨⟨polarity, hword⟩, hadjectives⟩ := h
    refine running_intercalate (by simp) fun w hw => ?_
    simp only [List.cons_append, List.mem_cons, List.mem_append, List.not_mem_nil, or_false] at hw
    rcases hw with rfl | hw | rfl
    · rcases articleFor_mem (adjectives.headD word) with harticle | harticle <;> rw [harticle] <;> decide
    · obtain ⟨polarity, hentry⟩ := hadjectives w hw
      exact hwords _ hentry
    · exact hwords _ hword
  | pronoun word =>
    obtain ⟨role, hword⟩ := h
    exact hwords _ hword
  | name called => exact hnames called h
  | binary op lhs rhs ihl ihr =>
    have opening : Running op.opening := by cases op <;> decide
    exact running_append_and.2 ⟨running_append_space.2 ⟨opening, ihl h.1⟩, ihr h.2⟩
  | unary op operand ih =>
    have opening : Running op.opening := by cases op <;> decide
    exact running_append_space.2 ⟨opening, ih h⟩
  | twice operand ih =>
    have parts : (twice operand).text = "twice" ++ " " ++ operand.text := by simp [text]
    rw [parts, running_append_space]
    exact ⟨by decide, ih h⟩

end NounPhrase

end Playscript
