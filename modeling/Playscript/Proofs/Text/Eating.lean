/-
Taking words from the front of a sentence.

A reader compares words up to the case of ASCII letters, so what it does with a word it does with every word that is the
same in this sense (`same_congr`). A phrase comes next when its words do (`eatPhrase_words`), and cannot come next when
its first word does not (`eatPhrase_eq_none`); of several names that come next the longest is found
(`eatLongest_eq_longest`).
-/
import Playscript.Proofs.Text.Splitting

namespace Playscript

namespace Text

theorem same_congr {a b : String} (h : same a b = true) (c : String) : same a c = same b c := by
  simp only [same, sameFolded, beq_iff_eq] at h ⊢
  rw [h]

theorem same_congr_right {a b : String} (h : same a b = true) (c : String) : same c a = same c b := by
  rw [same_comm c a, same_comm c b]
  exact same_congr h c

end Text

namespace Words

/-- the words that a phrase or a comparison is built around; no name begins with one, and no pronoun is one -/
def particles : List String := ["nothing", "zero", "twice", "the", "as"]

theorem eat_eq_none {w word : String} (h : Text.same w word = false) (ws : Words) : eat word (w :: ws) = none := by
  simp [eat, h]

theorem eat_eq_some {w word : String} (h : Text.same w word = true) (ws : Words) : eat word (w :: ws) = some ws := by
  simp [eat, h]

theorem exists_of_eat {word : String} {ws rest : Words} (h : eat word ws = some rest) :
    ∃ w, ws = w :: rest ∧ Text.same w word = true := by
  cases ws with
  | nil => cases h
  | cons w ws =>
    by_cases hsame : Text.same w word = true
    · rw [eat_eq_some hsame] at h
      exact ⟨w, congrArg (w :: ·) (Option.some.inj h), hsame⟩
    · rw [eat_eq_none (Bool.eq_false_iff.2 hsame)] at h
      cases h

theorem eat_congr {a b : String} (h : Text.same a b = true) (word : String) (ws : Words) :
    eat word (a :: ws) = eat word (b :: ws) := by
  simp only [eat, Text.same_congr h]

theorem eatPhrase_congr {a b : String} (h : Text.same a b = true) (phrase : String) (ws : Words) :
    eatPhrase phrase (a :: ws) = eatPhrase phrase (b :: ws) := by
  unfold eatPhrase
  cases Text.words phrase with
  | nil => rfl
  | cons part parts => simp only [eatAll, eat_congr h]

theorem eatAll_append (parts rest : Words) : eatAll parts (parts ++ rest) = some rest := by
  induction parts with
  | nil => rfl
  | cons part parts ih =>
    rw [List.cons_append, eatAll, eat_eq_some (Text.same_refl part)]
    exact ih

/-- a phrase comes next where its words do -/
theorem eatPhrase_words {phrase : String} (h : Text.words phrase ≠ []) (rest : Words) :
    eatPhrase phrase (Text.words phrase ++ rest) = some rest := by
  unfold eatPhrase
  cases hw : Text.words phrase with
  | nil => exact absurd hw h
  | cons part parts => exact eatAll_append (part :: parts) rest

/-- the first word of a phrase -/
def initial (phrase : String) : String := (Text.words phrase).headD ""

/-- a phrase does not come next where its first word does not -/
theorem eatPhrase_eq_none {phrase w : String} (h : Text.same w (initial phrase) = false) (ws : Words) :
    eatPhrase phrase (w :: ws) = none := by
  unfold initial at h
  unfold eatPhrase
  cases hw : Text.words phrase with
  | nil => rfl
  | cons part parts =>
    rw [hw, List.headD_cons] at h
    simp [eatAll, eat_eq_none h]

/-- a phrase that comes next begins with the next word -/
theorem same_initial_of_eatPhrase {phrase : String} {ws rest : Words} (h : eatPhrase phrase ws = some rest) :
    ∃ w left, ws = w :: left ∧ Text.same w (initial phrase) = true := by
  cases ws with
  | nil =>
    unfold eatPhrase at h
    split at h
    · cases h
    · rename_i hne
      cases hw : Text.words phrase with
      | nil => exact absurd hw hne
      | cons part parts => simp [hw, eatAll, eat] at h
  | cons w left =>
    refine ⟨w, left, rfl, Bool.not_eq_false _ ▸ fun hw => ?_⟩
    rw [eatPhrase_eq_none hw] at h
    cases h

/-- a match is passed over or becomes the best one -/
theorem longer_cases (ws : Words) (best : Option (String × Words)) (name : String) :
    longer ws best name = best ∨ ∃ rest, eatPhrase name ws = some rest ∧ longer ws best name = some (name, rest) := by
  unfold longer
  cases eatPhrase name ws with
  | none => exact .inl rfl
  | some rest =>
    cases best with
    | none => exact .inr ⟨rest, rfl, rfl⟩
    | some found =>
      dsimp only
      split
      · exact .inr ⟨rest, rfl, rfl⟩
      · exact .inl rfl

theorem longer_eq_none_iff {ws : Words} {best : Option (String × Words)} {name : String} :
    longer ws best name = none ↔ best = none ∧ eatPhrase name ws = none := by
  unfold longer
  cases eatPhrase name ws with
  | none => simp
  | some rest =>
    cases best with
    | none => simp
    | some found => dsimp only; split <;> simp

/-- **A name is found exactly where one comes next.** -/
theorem eatLongest_eq_none_iff {names : List String} {ws : Words} :
    eatLongest names ws = none ↔ ∀ m ∈ names, eatPhrase m ws = none := by
  have fold : ∀ best, names.foldl (longer ws) best = none ↔ best = none ∧ ∀ m ∈ names, eatPhrase m ws = none := by
    induction names with
    | nil => simp
    | cons m names ih =>
      intro best
      rw [List.foldl_cons, ih, longer_eq_none_iff, List.forall_mem_cons, and_assoc]
  rw [eatLongest, fold]
  simp

theorem eatLongest_eq_none {names : List String} {ws : Words} (h : ∀ m ∈ names, eatPhrase m ws = none) :
    eatLongest names ws = none :=
  eatLongest_eq_none_iff.2 h

/-- a name that is found is one of those looked for, and comes next -/
theorem mem_of_eatLongest {names : List String} {ws rest : Words} {name : String}
    (h : eatLongest names ws = some (name, rest)) : name ∈ names ∧ eatPhrase name ws = some rest := by
  have fold : ∀ (ms : List String) (best : Option (String × Words)),
      (∀ found ∈ best, found.1 ∈ names ∧ eatPhrase found.1 ws = some found.2) → (∀ m ∈ ms, m ∈ names) →
      ∀ found ∈ ms.foldl (longer ws) best, found.1 ∈ names ∧ eatPhrase found.1 ws = some found.2 := by
    intro ms
    induction ms with
    | nil => exact fun best hbest _ => hbest
    | cons m ms ih =>
      intro best hbest hms
      refine ih _ (fun found hfound => ?_) fun k hk => hms k (List.mem_cons_of_mem m hk)
      rcases longer_cases ws best m with kept | ⟨left, hleft, taken⟩
      · exact hbest found (kept ▸ hfound)
      · rw [taken] at hfound
        cases hfound
        exact ⟨hms m List.mem_cons_self, hleft⟩
  exact fold names none (fun _ h => by cases h) (fun _ h => h) (name, rest) h

/-- **The name that leaves fewest words is found**, if it leaves fewer than any other. -/
theorem eatLongest_eq_longest {names : List String} {name : String} {ws rest : Words} (hn : name ∈ names)
    (hname : eatPhrase name ws = some rest)
    (hother : ∀ m ∈ names, m ≠ name → ∀ left, eatPhrase m ws = some left → rest.length < left.length) :
    eatLongest names ws = some (name, rest) := by
  -- the best match so far is this name, or it is still to come and the best leaves more words
  have fold : ∀ (ms : List String) (best : Option (String × Words)), (∀ m ∈ ms, m ∈ names) →
      best = some (name, rest) ∨ (∀ found ∈ best, rest.length < found.2.length) ∧ name ∈ ms →
      ms.foldl (longer ws) best = some (name, rest) := by
    intro ms
    induction ms with
    | nil =>
      rintro best - (rfl | ⟨-, h⟩)
      · rfl
      · cases h
    | cons m ms ih =>
      intro best hms hbest
      have hrest : ∀ k ∈ ms, k ∈ names := fun k hk => hms k (List.mem_cons_of_mem m hk)
      rw [List.foldl_cons]
      by_cases e : m = name
      · refine ih _ hrest (.inl ?_)
        rcases hbest with rfl | ⟨hmore, -⟩
        · simp [longer, e, hname]
        · cases best with
          | none => simp [longer, e, hname]
          | some found => simp [longer, e, hname, Nat.le_of_lt (hmore found rfl)]
      · rcases hbest with rfl | ⟨hmore, hmem⟩
        · have kept : longer ws (some (name, rest)) m = some (name, rest) := by
            cases hm : eatPhrase m ws with
            | none => simp [longer, hm]
            | some left => simp [longer, hm, Nat.not_le.2 (hother m (hms m List.mem_cons_self) e left hm)]
          exact ih _ hrest (.inl kept)
        · refine ih _ hrest (.inr ⟨fun found hfound => ?_, (List.mem_cons.1 hmem).resolve_left (Ne.symm e)⟩)
          rcases longer_cases ws best m with kept | ⟨left, hleft, taken⟩
          · exact hmore found (kept ▸ hfound)
          · rw [taken] at hfound
            cases hfound
            exact hother m (hms m List.mem_cons_self) e left hleft
  exact fold names none (fun m hm => hm) (.inr ⟨nofun, hn⟩)

/-- **The one name that comes next is found.** -/
theorem eatLongest_eq_some {names : List String} {name : String} {ws rest : Words} (hn : name ∈ names)
    (hname : eatPhrase name ws = some rest) (hother : ∀ m ∈ names, m ≠ name → eatPhrase m ws = none) :
    eatLongest names ws = some (name, rest) := by
  refine eatLongest_eq_longest hn hname fun m hm hne left hleft => ?_
  rw [hother m hm hne] at hleft
  cases hleft

end Words

end Playscript
