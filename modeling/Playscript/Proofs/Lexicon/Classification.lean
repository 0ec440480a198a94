/-
Valid vocabularies: every listed word is classified as what it is listed as.

- `lookup_of_firstRepetition_eq_none`: where no entry repeats an earlier one without leave, looking a word up finds the
  kind of every entry with its small letters, not just of the first;
- `classify_of_mem_entries`: so a valid lexicon classifies each of its entries by its own kind.
-/
import Playscript.Lexicon

namespace Playscript

/-- an entry under its small letters -/
def keyed (entry : String × WordKind) : String × WordKind := (Text.lowercase entry.1, entry.2)

theorem eq_of_mayRepeat {kind earlier : WordKind} (h : kind.mayRepeat earlier = true) : earlier = kind := by
  cases earlier <;> simp_all [WordKind.mayRepeat]

/-- looking up an entry's word among the entries before it, then among its own list, finds its kind -/
theorem lookup_of_firstRepetition_eq_none {seen entries : List (String × WordKind)}
    (h : firstRepetition seen entries = none) {entry : String × WordKind} (he : entry ∈ entries) :
    (seen ++ entries.map keyed).lookup (Text.lowercase entry.1) = some entry.2 := by
  induction entries generalizing seen with
  | nil => cases he
  | cons first rest ih =>
    obtain ⟨word, kind⟩ := first
    simp only [firstRepetition] at h
    split at h
    · rename_i earlier hseen
      split at h
      · rename_i hrepeat
        have hkind : earlier = kind := eq_of_mayRepeat hrepeat
        rcases List.mem_cons.1 he with rfl | he
        · simp [List.lookup_append, hseen, hkind]
        · have := ih h he
          rw [List.lookup_append] at this ⊢
          by_cases hkey : Text.lowercase entry.1 = Text.lowercase word
          · rw [hkey, hseen] at this ⊢
            exact this
          · have hne := beq_eq_false_iff_ne.mpr hkey
            simpa [keyed, List.lookup_cons, hne] using this
      · cases h
    · rename_i hseen
      rcases List.mem_cons.1 he with rfl | he
      · simp [List.lookup_append, hseen, keyed]
      · have := ih h he
        rw [List.lookup_append] at this ⊢
        by_cases hkey : Text.lowercase entry.1 = Text.lowercase word
        · rw [hkey] at this ⊢
          simpa [keyed, hseen] using this
        · have hne := beq_eq_false_iff_ne.mpr hkey
          simpa [keyed, List.lookup_cons, hne] using this

namespace Lexicon

theorem firstRepetition_eq_none_of_validate {lexicon : Lexicon} (h : lexicon.validate = .ok ()) :
    firstRepetition [] lexicon.entries = none := by
  unfold validate flaw? at h
  split at h
  · cases h
  · rename_i hflaw
    split at hflaw
    · cases hflaw
    · simpa using hflaw

theorem classify_eq_lookup (lexicon : Lexicon) (word : String) :
    lexicon.classify word = (lexicon.entries.map keyed).lookup (Text.lowercase word) := by
  unfold classify
  induction lexicon.entries with
  | nil => rfl
  | cons entry entries ih =>
    by_cases hkey : Text.lowercase entry.1 = Text.lowercase word
    · simp [keyed, hkey]
    · have hne := beq_eq_false_iff_ne.mpr (Ne.symm hkey)
      simpa [keyed, List.lookup_cons, hkey, hne] using ih

/-- **A listed word is what it is listed as**, in a valid lexicon. -/
theorem classify_of_mem_entries {lexicon : Lexicon} (h : lexicon.validate = .ok ()) {word : String} {kind : WordKind}
    (he : (word, kind) ∈ lexicon.entries) : lexicon.classify word = some kind := by
  have found := lookup_of_firstRepetition_eq_none (firstRepetition_eq_none_of_validate h) he
  rw [List.nil_append] at found
  rw [classify_eq_lookup, found]

section Listed

variable {lexicon : Lexicon} (h : lexicon.validate = .ok ()) {word : String}
include h

theorem nounPolarity_of_mem {polarity : Polarity} (he : (word, .noun polarity) ∈ lexicon.entries) :
    lexicon.nounPolarity word = some polarity := by
  simp [nounPolarity, classify_of_mem_entries h he]

theorem adjectivePolarity_of_mem {polarity : Polarity} (he : (word, .adjective polarity) ∈ lexicon.entries) :
    lexicon.adjectivePolarity word = some polarity := by
  simp [adjectivePolarity, classify_of_mem_entries h he]

theorem comparativePolarity_of_mem {polarity : Polarity} (he : (word, .comparative polarity) ∈ lexicon.entries) :
    lexicon.comparativePolarity word = some polarity := by
  simp [comparativePolarity, classify_of_mem_entries h he]

theorem personOf_of_mem {role : Role} (he : (word, .pronoun role) ∈ lexicon.entries) :
    lexicon.personOf word = some role := by
  simp [personOf, classify_of_mem_entries h he]

end Listed

/-! ## Where the entries come from -/

theorem mem_entries_noun {lexicon : Lexicon} {word : String} {polarity : Polarity} :
    (word, .noun polarity) ∈ lexicon.entries ↔ word ∈ lexicon.nouns.words polarity := by
  cases polarity <;> simp [entries, WordClass.entries, WordClass.words]

theorem mem_entries_adjective {lexicon : Lexicon} {word : String} {polarity : Polarity} :
    (word, .adjective polarity) ∈ lexicon.entries ↔ word ∈ lexicon.adjectives.words polarity := by
  cases polarity <;> simp [entries, WordClass.entries, WordClass.words]

theorem mem_entries_comparative {lexicon : Lexicon} {word : String} {polarity : Polarity} :
    (word, .comparative polarity) ∈ lexicon.entries ↔ (word, polarity) ∈ lexicon.comparatives.entries := by
  cases polarity <;> simp [entries]

theorem mem_entries_pronoun {lexicon : Lexicon} {word : String} {role : Role} :
    (word, .pronoun role) ∈ lexicon.entries ↔
      ∃ forms, (role, forms) ∈ lexicon.pronouns.entries ∧ word ∈ forms.cases := by
  simp only [entries, List.mem_append, List.mem_flatMap, List.mem_map, Prod.mk.injEq, reduceCtorEq, and_false,
    exists_false, false_or, WordKind.pronoun.injEq, Prod.exists]
  constructor
  · rintro ⟨r, forms, hf, w, hw, rfl, rfl⟩
    exact ⟨forms, hf, hw⟩
  · rintro ⟨forms, hf, hw⟩
    exact ⟨role, forms, hf, word, hw, rfl, rfl⟩

theorem mem_pronouns_of_pronoun {lexicon : Lexicon} {role : Role} {forms : PronounForms}
    (h : lexicon.pronoun role = some forms) : (role, forms) ∈ lexicon.pronouns.entries := by
  cases role <;> simp_all [pronoun, Pronouns.entries, List.mem_of_mem_head?]

end Lexicon

end Playscript
