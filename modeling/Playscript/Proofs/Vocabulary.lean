/-
The standard vocabulary with characters named from its cast: nothing in it can be taken for something else
(`readable_of_standard`), and it never lacks a word (`ample_of_standard`).
-/
import Playscript.Proofs.Lexicon.Standard
import Playscript.Proofs.Phrase.Spelling

namespace Playscript.Vocabulary

open Lexicon

/-- **The standard vocabulary is readable** with characters named from its cast. -/
theorem readable_of_standard {vocabulary : Vocabulary} (hl : vocabulary.lexicon = standard)
    (hn : ∀ name ∈ vocabulary.cast.names, name ∈ standardCast) : vocabulary.Readable where
  valid := hl ▸ standard_valid
  single := hl ▸ standard_words.single
  small_noun := by
    rw [hl]
    exact fun word polarity h => standard_small_of_ne h (by simp)
  small_adjective := by
    rw [hl]
    exact fun word polarity h => standard_small_of_ne h (by simp)
  pronoun_plain := by
    rw [hl]
    intro word role h particle hp
    obtain ⟨forms, hf, hw⟩ := mem_entries_pronoun.1 h
    exact standard_words.pronouns _ hf word hw particle hp
  article_plain := by
    rw [hl]
    exact fun article h => standard_personOf_article h
  name_words := fun name h => standard_names.words name (hn name h)
  name_plain := fun name h particle hp => standard_names.plain name (hn name h) particle (List.mem_append_left _ hp)
  article_apart := by
    intro name h article ha
    rw [Text.same_comm]
    exact standard_names.plain name (hn name h) article (List.mem_append_right _ ha)
  pronoun_apart := by
    rw [hl]
    intro name h word role hw
    obtain ⟨forms, hf, hw⟩ := mem_entries_pronoun.1 hw
    exact standard_names.no_pronoun name (hn name h) _ hf word hw
  names_apart := fun name h other ho => standard_names.apart name (hn name h) other (hn other ho)

/-- a word that is in no name stays in stock -/
theorem unreserved_of_standard {cast : Cast} (hn : ∀ name ∈ cast.names, name ∈ standardCast) {word : String}
    (hw : word ∈ ["angel", "pig", "good", "big", "bad", "better", "worse"]) :
    (!cast.reserved.contains (Text.lowercase word)) = true := by
  have hfree := standard_names.unreserved word hw
  have hsub : Text.lowercase word ∉ cast.reserved := by
    intro h
    obtain ⟨w, hmem, hlow⟩ := List.mem_map.1 h
    obtain ⟨name, hname, hword⟩ := List.mem_flatMap.1 hmem
    exact hfree (List.mem_map.2 ⟨w, List.mem_flatMap.2 ⟨name, hn name hname, hword⟩, hlow⟩)
  simpa using hsub

/-- **The standard vocabulary never lacks a word** when its characters are named from its cast. -/
theorem ample_of_standard {cast : Cast} (hn : ∀ name ∈ cast.names, name ∈ standardCast) :
    (Vocabulary.of standard cast).Ample := by
  have stocked : ∀ {table : List String} (word : String), word ∈ table →
      word ∈ ["angel", "pig", "good", "big", "bad", "better", "worse"] →
      table.filter (fun w => !cast.reserved.contains (Text.lowercase w)) ≠ [] := by
    intro table word htable hw
    exact List.ne_nil_of_mem (List.mem_filter.2 ⟨htable, unreserved_of_standard hn hw⟩)
  have preferred : ∀ {a b : List String}, a ≠ [] → Stock.orElse a b ≠ [] := by
    intro a b ha
    rw [Stock.orElse, if_neg (by simpa using ha)]
    exact ha
  refine ⟨fun negative => ?_, fun polarity => ?_, fun polarity => ?_, fun role => ?_⟩
  · cases negative with
    | true => exact stocked "pig" (by decide) (by decide)
    | false => exact preferred (stocked "angel" (by decide) (by decide))
  · cases polarity with
    | positive => exact preferred (stocked "good" (by decide) (by decide))
    | neutral => exact preferred (stocked "big" (by decide) (by decide))
    | negative => exact preferred (stocked "bad" (by decide) (by decide))
  · cases polarity with
    | positive => exact stocked "better" (by decide) (by decide)
    | neutral => exact stocked "better" (by decide) (by decide)
    | negative => exact stocked "worse" (by decide) (by decide)
  · cases role with
    | speaker => exact ⟨_, rfl⟩
    | addressee => exact ⟨_, rfl⟩

end Playscript.Vocabulary
