/-
The same text with other blanks and in other letter case.

- `Respelled`: two texts differ at most in the case of ASCII letters and in their blanks, where both have some;
- `Respelled.cut`: a character that is not blank stands in both of them, between texts that are respelled;
- `splitBlank_respelled`: and the two have the same words, up to the case of ASCII letters.
-/
import Mathlib.Data.List.Forall2
import Playscript.Proofs.Text.Single

namespace Playscript.Text

/-- character by character the same up to the case of ASCII letters, but for blanks: where one text has some the other
has some, however many and of whatever kind -/
inductive Respelled : List Char → List Char → Prop
  | nil : Respelled [] []
  | letter {c d : Char} {cs ds : List Char} : c.toLower = d.toLower → Respelled cs ds → Respelled (c :: cs) (d :: ds)
  | gap {front front' cs ds : List Char} : Blank front → front ≠ [] → Blank front' → front' ≠ [] → Respelled cs ds →
    Respelled (front ++ cs) (front' ++ ds)

namespace Respelled

variable {cs ds : List Char}

theorem of_foldCase (h : foldCase cs = foldCase ds) : Respelled cs ds := by
  induction cs generalizing ds with
  | nil =>
    rw [List.map_eq_nil_iff.1 h.symm]
    exact .nil
  | cons c cs ih =>
    obtain ⟨d, rest, rfl, hd, hrest⟩ := List.map_eq_cons_iff.1 h.symm
    exact .letter hd.symm (ih hrest.symm)

theorem symm (h : Respelled cs ds) : Respelled ds cs := by
  induction h with
  | nil => exact .nil
  | letter hsame _ ih => exact .letter hsame.symm ih
  | gap hfront hne hfront' hne' _ ih => exact .gap hfront' hne' hfront hne ih

theorem append {es fs : List Char} (h : Respelled cs ds) (hrest : Respelled es fs) :
    Respelled (cs ++ es) (ds ++ fs) := by
  induction h with
  | nil => exact hrest
  | letter hsame _ ih => exact .letter hsame ih
  | gap hfront hne hfront' hne' _ ih =>
    rw [List.append_assoc, List.append_assoc]
    exact .gap hfront hne hfront' hne' ih

theorem blank (h : Respelled cs ds) (hblank : Blank cs) : Blank ds := by
  induction h with
  | nil => exact hblank
  | letter hsame _ ih =>
    obtain ⟨hc, hcs⟩ := List.forall_mem_cons.1 hblank
    refine List.forall_mem_cons.2 ⟨?_, ih hcs⟩
    rw [← isBlank_toLower, ← hsame, isBlank_toLower, hc]
  | gap _ _ hfront' _ _ ih =>
    exact List.forall_mem_append.2 ⟨hfront', ih (List.forall_mem_append.1 hblank).2⟩

/-- **A character that is not blank stands in both texts**, between texts that are respelled. -/
theorem cut {front back : List Char} {c : Char} (h : Respelled (front ++ c :: back) ds) (hc : isBlank c = false) :
    ∃ front' d back', ds = front' ++ d :: back' ∧ Respelled front front' ∧ c.toLower = d.toLower ∧
      Respelled back back' := by
  generalize hcs : front ++ c :: back = cs at h
  induction h generalizing front with
  | nil => cases front <;> cases hcs
  | @letter e d es ds hsame hrest ih =>
    cases front with
    | nil =>
      cases hcs
      exact ⟨[], d, ds, rfl, .nil, hsame, hrest⟩
    | cons e' front =>
      cases hcs
      obtain ⟨front', d', back', rfl, hfront, hd, hback⟩ := ih rfl
      exact ⟨d :: front', d', back', rfl, .letter hsame hfront, hd, hback⟩
  | @gap blanks blanks' es ds hblanks hne hblanks' hne' hrest ih =>
    -- the character is none of the blanks, so they lie in front of it
    obtain ⟨left, rfl, rfl⟩ : ∃ left, front = blanks ++ left ∧ es = left ++ c :: back := by
      rcases List.append_eq_append_iff.1 hcs with ⟨left, hleft, hes⟩ | ⟨left, hfront, hes⟩
      · cases left with
        | nil => exact ⟨[], by simpa using hleft.symm, by simpa using hes.symm⟩
        | cons b left =>
          cases hes
          have hb := hblanks c (hleft ▸ List.mem_append_right _ List.mem_cons_self)
          rw [hc] at hb
          cases hb
      · exact ⟨left, hfront, hes⟩
    obtain ⟨front', d', back', rfl, hfront, hd, hback⟩ := ih rfl
    exact ⟨blanks' ++ front', d', back', by simp, .gap hblanks hne hblanks' hne' hfront, hd, hback⟩

/-- a blank comes next in both texts or in neither -/
theorem head_blank (h : Respelled cs ds) : (cs.head?.map isBlank) = ds.head?.map isBlank := by
  cases h with
  | nil => rfl
  | @letter c d _ _ hsame _ =>
    have : isBlank c = isBlank d := by rw [← isBlank_toLower, hsame, isBlank_toLower]
    simp [this]
  | @gap front front' _ _ hfront hne hfront' hne' _ =>
    obtain ⟨b, front, rfl⟩ := List.exists_cons_of_ne_nil hne
    obtain ⟨b', front', rfl⟩ := List.exists_cons_of_ne_nil hne'
    simp [hfront b List.mem_cons_self, hfront' b' List.mem_cons_self]

end Respelled

theorem splitBlank_blank_append {front : List Char} (h : Blank front) (cs : List Char) :
    splitBlank (front ++ cs) = splitBlank cs := by
  rw [← splitBlank_dropBlankFront, dropBlankFront_append h, splitBlank_dropBlankFront]

/-- a character that is not blank is a word of its own in front of a blank, else the beginning of the next word -/
theorem splitBlank_cons_ink {c : Char} (h : isBlank c = false) (cs : List Char) :
    splitBlank (c :: cs) =
      if cs.head?.map isBlank = some true then [c] :: splitBlank cs else extendFirst c (splitBlank cs) := by
  cases cs with
  | nil => simp [splitBlank, h, extendFirst]
  | cons d cs =>
    rw [splitBlank]
    simp [h]

theorem extendFirst_folded {c d : Char} (hsame : c.toLower = d.toLower) {ws vs : List (List Char)}
    (h : List.Forall₂ (fun p q => foldCase p = foldCase q) ws vs) :
    List.Forall₂ (fun p q => foldCase p = foldCase q) (extendFirst c ws) (extendFirst d vs) := by
  cases h with
  | nil => exact .cons (by simp [foldCase, hsame]) .nil
  | cons hfirst hothers =>
    refine .cons ?_ hothers
    simpa [foldCase, hsame] using hfirst

/-- **Respelled texts have the same words**, up to the case of ASCII letters. -/
theorem splitBlank_respelled {cs ds : List Char} (h : Respelled cs ds) :
    List.Forall₂ (fun p q => foldCase p = foldCase q) (splitBlank cs) (splitBlank ds) := by
  induction h with
  | nil => exact .nil
  | gap hfront _ hfront' _ _ ih => rwa [splitBlank_blank_append hfront, splitBlank_blank_append hfront']
  | @letter c d cs ds hsame hrest ih =>
    have hblank : isBlank c = isBlank d := by rw [← isBlank_toLower, hsame, isBlank_toLower]
    cases hc : isBlank c with
    | true => rwa [splitBlank_cons_blank hc, splitBlank_cons_blank (hblank ▸ hc)]
    | false =>
      rw [splitBlank_cons_ink hc, splitBlank_cons_ink (hblank ▸ hc), hrest.head_blank]
      split
      · exact .cons (by simp [foldCase, hsame]) ih
      · exact extendFirst_folded hsame ih

end Playscript.Text
