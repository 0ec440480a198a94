/-
Running text: words with single spaces between them.

- `Spaced`: a text is words of admitted characters with one space between any two, checked from left to right;
- `spaced_append_space`: two such texts with a space between them are one;
- `Spaced.tight`: such a text begins and ends with something.
-/
import Playscript.Proofs.Text.Trimming

namespace Playscript.Text

/-- whether a text goes on as words with single spaces between them; `inWord` tells that a word has begun -/
def spacedFrom (ok : Char → Bool) (inWord : Bool) : List Char → Bool
  | [] => inWord
  | c :: cs => if c = ' ' then inWord && spacedFrom ok false cs else ok c && spacedFrom ok true cs

/-- words of admitted characters, at least one, with single spaces between them -/
def Spaced (ok : Char → Bool) (cs : List Char) : Prop := spacedFrom ok false cs = true

instance (ok : Char → Bool) (cs : List Char) : Decidable (Spaced ok cs) :=
  inferInstanceAs (Decidable (spacedFrom ok false cs = true))

variable {ok : Char → Bool}

theorem spacedFrom_append_space (inWord : Bool) (cs ds : List Char) :
    spacedFrom ok inWord (cs ++ ' ' :: ds) = (spacedFrom ok inWord cs && spacedFrom ok false ds) := by
  induction cs generalizing inWord with
  | nil => simp [spacedFrom]
  | cons c cs ih =>
    rw [List.cons_append, spacedFrom, spacedFrom]
    split
    · rw [ih, Bool.and_assoc]
    · rw [ih, Bool.and_assoc]

theorem spaced_append_space {cs ds : List Char} : Spaced ok (cs ++ ' ' :: ds) ↔ Spaced ok cs ∧ Spaced ok ds := by
  rw [Spaced, spacedFrom_append_space, Bool.and_eq_true]
  rfl

theorem spaced_cons {c : Char} (hc : c ≠ ' ') {cs : List Char} :
    Spaced ok (c :: cs) ↔ ok c = true ∧ spacedFrom ok true cs = true := by
  rw [Spaced, spacedFrom, if_neg hc, Bool.and_eq_true]

theorem spacedFrom_concat {c : Char} (hc : c ≠ ' ') (hok : ok c = true) {inWord : Bool} {cs : List Char}
    (h : spacedFrom ok inWord cs = true) : spacedFrom ok inWord (cs ++ [c]) = true := by
  induction cs generalizing inWord with
  | nil => simp [spacedFrom, hc, hok]
  | cons d cs ih =>
    rw [List.cons_append, spacedFrom]
    rw [spacedFrom] at h
    split at h
    · rw [Bool.and_eq_true] at h
      rw [if_pos ‹_›, h.1, ih h.2]
      rfl
    · rw [Bool.and_eq_true] at h
      rw [if_neg ‹_›, h.1, ih h.2]
      rfl

/-- a mark may follow the last word -/
theorem Spaced.concat {cs : List Char} (h : Spaced ok cs) {c : Char} (hc : c ≠ ' ') (hok : ok c = true) :
    Spaced ok (cs ++ [c]) :=
  spacedFrom_concat hc hok h

theorem Spaced.mono {ok' : Char → Bool} (hok : ∀ c, ok c = true → ok' c = true) {cs : List Char} (h : Spaced ok cs) :
    Spaced ok' cs := by
  have go : ∀ (cs : List Char) (inWord : Bool), spacedFrom ok inWord cs = true → spacedFrom ok' inWord cs = true := by
    intro cs
    induction cs with
    | nil => exact fun _ h => h
    | cons c cs ih =>
      intro inWord h
      rw [spacedFrom] at h ⊢
      split at h
      · rw [Bool.and_eq_true] at h
        rw [if_pos ‹_›, h.1, ih _ h.2]
        rfl
      · rw [Bool.and_eq_true] at h
        rw [if_neg ‹_›, hok c h.1, ih _ h.2]
        rfl
  exact go cs false h

theorem mem_of_spacedFrom {inWord : Bool} {cs : List Char} (h : spacedFrom ok inWord cs = true) {c : Char}
    (hc : c ∈ cs) : c = ' ' ∨ ok c = true := by
  induction cs generalizing inWord with
  | nil => cases hc
  | cons d cs ih =>
    rw [spacedFrom] at h
    split at h
    · rename_i hd
      rw [Bool.and_eq_true] at h
      rcases List.mem_cons.1 hc with rfl | hc
      · exact .inl hd
      · exact ih h.2 hc
    · rw [Bool.and_eq_true] at h
      rcases List.mem_cons.1 hc with rfl | hc
      · exact .inr h.1
      · exact ih h.2 hc

theorem Spaced.mem {cs : List Char} (h : Spaced ok cs) {c : Char} (hc : c ∈ cs) : c = ' ' ∨ ok c = true :=
  mem_of_spacedFrom h hc

/-- running text begins with a character of a word -/
theorem Spaced.head {cs : List Char} (h : Spaced ok cs) : ∃ c rest, cs = c :: rest ∧ c ≠ ' ' ∧ ok c = true := by
  cases cs with
  | nil => cases h
  | cons c rest =>
    rw [Spaced, spacedFrom] at h
    split at h
    · cases h
    · exact ⟨c, rest, rfl, ‹_›, (Bool.and_eq_true _ _ ▸ h).1⟩

theorem getLast?_of_spacedFrom {inWord : Bool} {cs : List Char} (h : spacedFrom ok inWord cs = true) :
    (cs = [] ∧ inWord = true) ∨ ∃ c ∈ cs.getLast?, ok c = true := by
  induction cs generalizing inWord with
  | nil => exact .inl ⟨rfl, h⟩
  | cons c cs ih =>
    rw [spacedFrom] at h
    split at h
    · rw [Bool.and_eq_true] at h
      rcases ih h.2 with ⟨-, hfalse⟩ | ⟨d, hd, hok⟩
      · cases hfalse
      · exact .inr ⟨d, by simp [List.getLast?_cons, Option.mem_def.1 hd], hok⟩
    · rw [Bool.and_eq_true] at h
      rcases ih h.2 with ⟨rfl, -⟩ | ⟨d, hd, hok⟩
      · exact .inr ⟨c, by simp, h.1⟩
      · exact .inr ⟨d, by simp [List.getLast?_cons, Option.mem_def.1 hd], hok⟩

/-- **Running text begins and ends with something.** -/
theorem Spaced.tight (hok : ∀ c, ok c = true → isBlank c = false) {cs : List Char} (h : Spaced ok cs) : Tight cs := by
  obtain ⟨c, rest, rfl, -, hc⟩ := h.head
  rcases getLast?_of_spacedFrom h with ⟨hnil, -⟩ | ⟨last, hlast, hlast'⟩
  · cases hnil
  · exact ⟨⟨c, rfl, hok c hc⟩, last, hlast, hok last hlast'⟩

end Playscript.Text
