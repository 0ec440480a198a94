/-
What a lexicon is refused for.

- `Conflict`: two entries are in conflict if they are one word in small letters, but not two forms of pronouns of one
  person;
- `Tracks`: what the words seen so far tell of the entries that they come from, which are free of conflict;
- `firstRepetition_cases`: so the word found to be repeated is that of the first entry in conflict with an earlier one,
  and there is none only where no two entries are in conflict;
- `validate_unambiguous`: and then each word is classified by the table that lists it.
-/
import Playscript.Proofs.Lexicon.Classification
import Playscript.Proofs.Outcome

namespace Playscript

/-- one word, in small letters, with two meanings, or listed twice where only pronouns of one person may be -/
def Conflict (earlier later : String × WordKind) : Prop :=
  Text.lowercase earlier.1 = Text.lowercase later.1 ∧ ¬ ∃ role, earlier.2 = .pronoun role ∧ later.2 = .pronoun role

/-- no two entries are in conflict -/
def Unambiguous (entries : List (String × WordKind)) : Prop :=
  entries.Pairwise fun earlier later => ¬ Conflict earlier later

/-- an entry is the first to be in conflict with an earlier one -/
def FirstConflict (entries : List (String × WordKind)) (entry : String × WordKind) : Prop :=
  ∃ before after, entries = before ++ entry :: after ∧ Unambiguous before ∧ ∃ earlier ∈ before, Conflict earlier entry

/-! ## The words seen so far -/

theorem mayRepeat_iff {kind earlier : WordKind} :
    kind.mayRepeat earlier = true ↔ ∃ role, earlier = .pronoun role ∧ kind = .pronoun role := by
  cases earlier with
  | pronoun role => simp [WordKind.mayRepeat]
  | _ => simp [WordKind.mayRepeat]

/-- the words seen are those of the entries before, each with its kind -/
structure Tracks (seen before : List (String × WordKind)) : Prop where
  unambiguous : Unambiguous before
  lookup : ∀ key kind, seen.lookup key = some kind ↔ ∃ entry ∈ before, Text.lowercase entry.1 = key ∧ entry.2 = kind

theorem tracks_nil : Tracks [] [] := ⟨.nil, by simp⟩

section Tracks

variable {seen before : List (String × WordKind)} (h : Tracks seen before) {word : String} {kind : WordKind}
include h

theorem unambiguous_concat {entry : String × WordKind} (hnew : ∀ earlier ∈ before, ¬ Conflict earlier entry) :
    Unambiguous (before ++ [entry]) := by
  refine List.pairwise_append.2 ⟨h.unambiguous, List.pairwise_singleton _ _, fun earlier hearlier later hlater => ?_⟩
  rw [List.mem_singleton.1 hlater]
  exact hnew earlier hearlier

/-- an entry with a new word is seen -/
theorem Tracks.see (hseen : seen.lookup (Text.lowercase word) = none) :
    Tracks ((Text.lowercase word, kind) :: seen) (before ++ [(word, kind)]) := by
  have new : ∀ earlier ∈ before, Text.lowercase earlier.1 ≠ Text.lowercase word := by
    intro earlier hearlier hsame
    have found := (h.lookup (Text.lowercase word) earlier.2).2 ⟨earlier, hearlier, hsame, rfl⟩
    rw [hseen] at found
    cases found
  refine ⟨unambiguous_concat h fun earlier hearlier hconflict => new earlier hearlier hconflict.1, fun key k => ?_⟩
  simp only [List.lookup_cons, List.mem_append, List.mem_singleton, or_and_right, exists_or, exists_eq_left, ← h.lookup]
  by_cases hkey : key = Text.lowercase word
  · subst hkey
    simp [hseen]
  · simp [beq_eq_false_iff_ne.2 hkey, Ne.symm hkey]

/-- an entry that may repeat a word changes nothing -/
theorem Tracks.again {earlier : WordKind} (hseen : seen.lookup (Text.lowercase word) = some earlier)
    (hrepeat : kind.mayRepeat earlier = true) : Tracks seen (before ++ [(word, kind)]) := by
  obtain ⟨role, rfl, rfl⟩ := mayRepeat_iff.1 hrepeat
  refine ⟨unambiguous_concat h fun entry hentry ⟨hsame, hkinds⟩ => ?_, fun key k => ?_⟩
  · have found := (h.lookup (Text.lowercase word) entry.2).2 ⟨entry, hentry, hsame, rfl⟩
    rw [hseen] at found
    exact hkinds ⟨role, (Option.some.inj found).symm, rfl⟩
  · simp only [List.mem_append, List.mem_singleton, or_and_right, exists_or, exists_eq_left, ← h.lookup]
    refine (or_iff_left_of_imp fun ⟨hkey, hkind⟩ => ?_).symm
    rw [← hkey, ← hkind, hseen]

/-- an entry that may not repeat a word is in conflict with the one that has it -/
theorem Tracks.conflict {earlier : WordKind} (hseen : seen.lookup (Text.lowercase word) = some earlier)
    (hrepeat : ¬ kind.mayRepeat earlier = true) : ∃ entry ∈ before, Conflict entry (word, kind) := by
  obtain ⟨entry, hentry, hsame, rfl⟩ := (h.lookup _ _).1 hseen
  exact ⟨entry, hentry, hsame, fun both => hrepeat (mayRepeat_iff.2 both)⟩

end Tracks

/-- **A repetition is the first conflict**, and there is none only where there is no conflict. -/
theorem firstRepetition_cases {seen before : List (String × WordKind)} (h : Tracks seen before)
    (entries : List (String × WordKind)) :
    (firstRepetition seen entries = none ∧ Unambiguous (before ++ entries)) ∨
      ∃ entry, FirstConflict (before ++ entries) entry ∧
        firstRepetition seen entries = some (Text.lowercase entry.1) := by
  induction entries generalizing seen before with
  | nil => exact .inl ⟨rfl, (List.append_nil before).symm ▸ h.unambiguous⟩
  | cons entry entries ih =>
    obtain ⟨word, kind⟩ := entry
    have along : before ++ (word, kind) :: entries = before ++ [(word, kind)] ++ entries := by simp
    rw [firstRepetition]
    cases hseen : seen.lookup (Text.lowercase word) with
    | none =>
      rw [along]
      exact ih (h.see hseen)
    | some earlier =>
      by_cases hrepeat : kind.mayRepeat earlier = true
      · simp only [hrepeat, if_true]
        rw [along]
        exact ih (h.again hseen hrepeat)
      · simp only [hrepeat]
        exact .inr ⟨(word, kind), ⟨before, entries, rfl, h.unambiguous, h.conflict hseen hrepeat⟩, rfl⟩

/-- where some entry is the first in conflict there is a conflict -/
theorem FirstConflict.ambiguous {entries : List (String × WordKind)} {entry : String × WordKind}
    (h : FirstConflict entries entry) : ¬ Unambiguous entries := by
  obtain ⟨before, after, rfl, -, earlier, hearlier, hconflict⟩ := h
  exact fun unambiguous => (List.pairwise_append.1 unambiguous).2.2 earlier hearlier entry List.mem_cons_self hconflict

/-! ## Tables -/

namespace Lexicon

/-- the tables that a lexicon cannot do without have words -/
structure Complete (lexicon : Lexicon) : Prop where
  worthyNouns : lexicon.nouns.positive ≠ [] ∨ lexicon.nouns.neutral ≠ []
  negativeNouns : lexicon.nouns.negative ≠ []
  adjectives : ∃ polarity, lexicon.adjectives.words polarity ≠ []
  comparatives : lexicon.comparatives.positive ≠ [] ∧ lexicon.comparatives.negative ≠ []
  pronouns : lexicon.pronouns.firstPerson ≠ [] ∧ lexicon.pronouns.secondPerson ≠ []
  numerals : lexicon.numerals ≠ []
  cast : lexicon.cast ≠ []

/-- the words that a lexicon lists as words of a kind -/
def table (lexicon : Lexicon) : WordKind → List String
  | .noun polarity => lexicon.nouns.words polarity
  | .adjective polarity => lexicon.adjectives.words polarity
  | .comparative .positive => lexicon.comparatives.positive
  | .comparative .neutral => []
  | .comparative .negative => lexicon.comparatives.negative
  | .pronoun .speaker => lexicon.pronouns.firstPerson.flatMap PronounForms.cases
  | .pronoun .addressee => lexicon.pronouns.secondPerson.flatMap PronounForms.cases

/-- some word of a table is this word in small letters -/
def Lists (lexicon : Lexicon) (kind : WordKind) (word : String) : Prop :=
  ∃ listed ∈ lexicon.table kind, Text.lowercase listed = Text.lowercase word

theorem mem_entries {lexicon : Lexicon} {word : String} {kind : WordKind} :
    (word, kind) ∈ lexicon.entries ↔ word ∈ lexicon.table kind := by
  cases kind with
  | noun polarity => exact mem_entries_noun
  | adjective polarity => exact mem_entries_adjective
  | comparative polarity =>
    rw [mem_entries_comparative]
    cases polarity <;> simp [table, Comparatives.entries]
  | pronoun role =>
    rw [mem_entries_pronoun]
    cases role <;> simp [table, Pronouns.entries]

theorem Complete.has {lexicon : Lexicon} (h : lexicon.Complete) (requirement : Requirement) :
    lexicon.has requirement = true := by
  cases requirement with
  | worthyNouns => simpa [Lexicon.has] using h.worthyNouns
  | negativeNouns => simpa [Lexicon.has] using h.negativeNouns
  | adjectives =>
    obtain ⟨polarity, hne⟩ := h.adjectives
    obtain ⟨word, hword⟩ := List.exists_mem_of_ne_nil _ hne
    have listed : (word, polarity) ∈ lexicon.adjectives.entries := by
      cases polarity <;> simp_all [WordClass.entries, WordClass.words]
    simpa [Lexicon.has] using List.ne_nil_of_mem listed
  | comparatives => simpa [Lexicon.has] using h.comparatives
  | pronouns => simpa [Lexicon.has] using h.pronouns
  | numerals => simpa [Lexicon.has] using h.numerals
  | cast => simpa [Lexicon.has] using h.cast

/-- nothing but a repetition is wrong with a complete lexicon -/
theorem Complete.validate {lexicon : Lexicon} (h : lexicon.Complete) :
    lexicon.validate = match firstRepetition [] lexicon.entries with
      | some word => .error (.duplicateWord word)
      | none => .ok () := by
  have complete : requirements.find? (fun requirement => !lexicon.has requirement) = none := by
    rw [List.find?_eq_none]
    intro requirement _
    simp [h.has requirement]
  rw [Lexicon.validate, flaw?, complete]
  cases firstRepetition [] lexicon.entries <;> rfl

/-- **A valid lexicon classifies a word by the table that lists it.** -/
theorem classify_iff {lexicon : Lexicon} (valid : lexicon.validate = .ok ()) (word : String) (kind : WordKind) :
    lexicon.classify word = some kind ↔ lexicon.Lists kind word := by
  constructor
  · intro hclassify
    obtain ⟨entry, hfind, rfl⟩ := Option.map_eq_some_iff.1 hclassify
    exact ⟨entry.1, mem_entries.1 (List.mem_of_find?_eq_some hfind), by simpa using List.find?_some hfind⟩
  · rintro ⟨listed, hlisted, hsame⟩
    have found := classify_of_mem_entries valid (mem_entries.2 hlisted)
    rwa [classify, hsame] at found

/-- **Validation makes classification faithful.** A lexicon with all its tables is accepted exactly if no two of its
entries are one word in small letters, forms of pronouns of one person aside. If it is, each word is a word of the kind
of the table that lists it, and of no other kind. If it is not, it is refused for the word of the first entry, in index
order, that must not repeat an earlier one. -/
theorem validate_unambiguous {lexicon : Lexicon} (complete : lexicon.Complete) :
    (lexicon.validate = .ok () ↔ Unambiguous lexicon.entries) ∧
    (lexicon.validate = .ok () → ∀ word,
      (∀ kind, lexicon.classify word = some kind ↔ lexicon.Lists kind word) ∧
      (∀ polarity, lexicon.nounPolarity word = some polarity ↔ lexicon.Lists (.noun polarity) word) ∧
      (∀ polarity, lexicon.adjectivePolarity word = some polarity ↔ lexicon.Lists (.adjective polarity) word) ∧
      (∀ polarity, lexicon.comparativePolarity word = some polarity ↔ lexicon.Lists (.comparative polarity) word) ∧
      ∀ role, lexicon.personOf word = some role ↔ lexicon.Lists (.pronoun role) word) ∧
    (¬ Unambiguous lexicon.entries → ∃ entry, FirstConflict lexicon.entries entry ∧
      lexicon.validate = .error (.duplicateWord (Text.lowercase entry.1))) := by
  refine ⟨?_, fun valid word => ?_, fun ambiguous => ?_⟩
  · rw [complete.validate]
    rcases firstRepetition_cases tracks_nil lexicon.entries with ⟨hnone, unambiguous⟩ | ⟨entry, hfirst, hsome⟩
    · simpa [hnone] using unambiguous
    · simpa [hsome] using hfirst.ambiguous
  · simp only [nounPolarity, adjectivePolarity, comparativePolarity, personOf, ← classify_iff valid]
    cases lexicon.classify word with
    | none => simp
    | some kind => cases kind <;> simp
  · rcases firstRepetition_cases tracks_nil lexicon.entries with ⟨-, unambiguous⟩ | ⟨entry, hfirst, hsome⟩
    · exact absurd unambiguous ambiguous
    · exact ⟨entry, hfirst, by rw [complete.validate, hsome]⟩

/-- "yourself" may be listed for "you" and for "thou"; a "PIG" among the adjectives is refused, before the "cat" after
it -/
theorem validate_unambiguous_yourself :
    let lexicon : Lexicon := ⟨⟨["Cat"], [], ["pig"]⟩, ⟨[], ["big"], []⟩, ⟨["better"], ["worse"]⟩,
      ⟨[⟨"I", "me", "myself", "am"⟩], [⟨"you", "you", "yourself", "are"⟩, ⟨"thou", "thee", "yourself", "art"⟩]⟩, ["I"],
      ["Romeo"]⟩
    let crowded : Lexicon := { lexicon with adjectives := ⟨["good"], ["PIG", "cat"], []⟩ }
    lexicon.Complete ∧ lexicon.validate = .ok () ∧ lexicon.Lists (.pronoun .addressee) "YourSelf" ∧
      lexicon.classify "YourSelf" = some (.pronoun .addressee) ∧ crowded.Complete ∧
      ∃ entry, FirstConflict crowded.entries entry ∧ Text.lowercase entry.1 = "pig" ∧
        crowded.validate = .error (.duplicateWord (Text.lowercase entry.1)) := by
  intro lexicon crowded
  have complete : lexicon.Complete :=
    ⟨.inl (by decide), by decide, ⟨.neutral, by decide⟩, by decide, by decide, by decide, by decide⟩
  have crowdedComplete : crowded.Complete :=
    ⟨.inl (by decide), by decide, ⟨.neutral, by decide⟩, by decide, by decide, by decide, by decide⟩
  have valid : lexicon.validate = .ok () := eq_ok_of_toOption (by decide)
  have listed : lexicon.Lists (.pronoun .addressee) "YourSelf" := ⟨"yourself", by decide, by decide⟩
  have refused : crowded.validate = .error (.duplicateWord "pig") := by
    have flaw : crowded.flaw? = some (.duplicateWord "pig") := by decide
    rw [validate, flaw]
  refine ⟨complete, valid, listed, (((validate_unambiguous complete).2.1 valid _).1 _).2 listed, crowdedComplete, ?_⟩
  obtain ⟨accepted_iff, -, refused_at⟩ := validate_unambiguous crowdedComplete
  obtain ⟨entry, hfirst, hentry⟩ := refused_at fun h => by
    rw [← accepted_iff, refused] at h
    cases h
  refine ⟨entry, hfirst, ?_, hentry⟩
  rw [refused] at hentry
  simpa using hentry.symm

end Lexicon

end Playscript
