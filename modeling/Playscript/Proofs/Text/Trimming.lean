/-
Trimming a text that is put together from parts.

- `trimChars_append_blank`, `trimChars_dropBlankBack`: blanks at the end make no difference;
- `Tight.trimChars_append`: text that begins and ends with something stays as it is, and what follows it loses the
  blanks at its own end;
- `trimChars_eq_nil_iff`: what is nothing but blanks is trimmed to nothing, and nothing else is;
- `tight_trimChars`: what is left of a text after trimming begins and ends with something, if it is anything;
- `Solid`: a text without blanks;
- `ink`: what is not blank in a text; it tells how a text begins and ends that has nothing to trim.
-/
import Playscript.Text.Blank
import Mathlib.Data.List.TakeWhile

namespace Playscript.Text

/-- nothing but blanks -/
def Blank (cs : List Char) : Prop := ∀ c ∈ cs, isBlank c = true

-- named, since the instance for a finite type goes through all characters instead
instance (cs : List Char) : Decidable (Blank cs) := List.decidableBAll (fun c => isBlank c = true) cs

theorem allBlank_iff {cs : List Char} : allBlank cs = true ↔ Blank cs := List.all_eq_true

/-- a text without blanks -/
def Solid (cs : List Char) : Prop := ∀ c ∈ cs, isBlank c = false

theorem dropBlankFront_append {front : List Char} (h : Blank front) (cs : List Char) :
    dropBlankFront (front ++ cs) = dropBlankFront cs :=
  List.dropWhile_append_of_pos h

theorem dropBlankBack_append_blank (cs : List Char) {back : List Char} (h : Blank back) :
    dropBlankBack (cs ++ back) = dropBlankBack cs := by
  rw [dropBlankBack, List.reverse_append, List.dropWhile_append_of_pos fun c hc => h c (List.mem_reverse.1 hc)]
  rfl

/-- whatever stands before the last character that is not blank stays -/
theorem dropBlankBack_append {c : Char} (h : isBlank c = false) (front rest : List Char) :
    dropBlankBack (front ++ c :: rest) = front ++ c :: dropBlankBack rest := by
  have reversed : (front ++ c :: rest).reverse = rest.reverse ++ c :: front.reverse := by simp
  rw [dropBlankBack, dropBlankBack, reversed, List.dropWhile_append]
  cases hrest : rest.reverse.dropWhile isBlank with
  | nil => simp [h]
  | cons d ds => simp

theorem mem_of_mem_dropBlankBack {c : Char} {cs : List Char} (h : c ∈ dropBlankBack cs) : c ∈ cs :=
  List.mem_reverse.1 ((List.dropWhile_sublist _).subset (List.mem_reverse.1 h))

theorem trimChars_append_blank (cs : List Char) {back : List Char} (h : Blank back) :
    trimChars (cs ++ back) = trimChars cs := by
  have hfront : dropBlankFront (cs ++ back) = if (dropBlankFront cs).isEmpty then dropBlankFront back
      else dropBlankFront cs ++ back := List.dropWhile_append
  have hback : dropBlankFront back = [] := by
    have hdrop := dropBlankFront_append h []
    rwa [List.append_nil] at hdrop
  rw [trimChars, trimChars, hfront, hback]
  cases hcs : dropBlankFront cs with
  | nil => rfl
  | cons c rest => exact dropBlankBack_append_blank (c :: rest) h

theorem dropBlankBack_blank {cs : List Char} (h : Blank cs) : dropBlankBack cs = [] :=
  dropBlankBack_append_blank [] h

/-- nothing but blanks is dropped at the end -/
theorem exists_back (cs : List Char) : ∃ back, Blank back ∧ dropBlankBack cs ++ back = cs := by
  refine ⟨(cs.reverse.takeWhile isBlank).reverse, fun c hc => List.mem_takeWhile_imp (List.mem_reverse.1 hc), ?_⟩
  rw [dropBlankBack, ← List.reverse_append, List.takeWhile_append_dropWhile, List.reverse_reverse]

/-- nothing but blanks is trimmed off -/
theorem exists_padding (cs : List Char) :
    ∃ before behind, Blank before ∧ Blank behind ∧ cs = before ++ trimChars cs ++ behind := by
  obtain ⟨back, hback, hcs⟩ := exists_back (dropBlankFront cs)
  refine ⟨cs.takeWhile isBlank, back, fun c hc => List.mem_takeWhile_imp hc, hback, ?_⟩
  rw [List.append_assoc, trimChars, hcs, dropBlankFront, List.takeWhile_append_dropWhile]

theorem trimChars_eq_nil_iff {cs : List Char} : trimChars cs = [] ↔ Blank cs := by
  refine ⟨fun h => ?_, fun h => trimChars_append_blank [] h⟩
  obtain ⟨before, behind, hbefore, hbehind, parts⟩ := exists_padding cs
  rw [parts, h, List.append_nil]
  exact List.forall_mem_append.2 ⟨hbefore, hbehind⟩

/-- blanks dropped at the end make no difference to trimming -/
theorem trimChars_dropBlankBack (cs : List Char) : trimChars (dropBlankBack cs) = trimChars cs := by
  obtain ⟨back, hback, parts⟩ := exists_back cs
  rw [← trimChars_append_blank _ hback, parts]

/-- a text that is not blank from its first character on that is not -/
theorem trimChars_eq_cons {cs : List Char} (h : trimChars cs ≠ []) :
    ∃ front c rest, Blank front ∧ isBlank c = false ∧ cs = front ++ c :: rest ∧
      trimChars cs = c :: dropBlankBack rest := by
  cases hrest : dropBlankFront cs with
  | nil => exact absurd (by rw [trimChars, hrest]; rfl) h
  | cons c rest =>
    have hink : isBlank c = false := by
      have hne : cs.dropWhile isBlank ≠ [] := fun hnil => by simp [dropBlankFront, hnil] at hrest
      have hhead := List.head_dropWhile_not isBlank hne
      simpa [show cs.dropWhile isBlank = c :: rest from hrest] using hhead
    refine ⟨cs.takeWhile isBlank, c, rest, fun d hd => List.mem_takeWhile_imp hd, hink, ?_, ?_⟩
    · rw [← hrest, dropBlankFront, List.takeWhile_append_dropWhile]
    · rw [trimChars, hrest]
      exact dropBlankBack_append hink [] rest

/-- text that begins and ends with something -/
structure Tight (cs : List Char) : Prop where
  first : ∃ c ∈ cs.head?, isBlank c = false
  last : ∃ c ∈ cs.getLast?, isBlank c = false

/-- **Whatever follows text that begins and ends with something loses the blanks at its own end only.** -/
theorem Tight.trimChars_append {front : List Char} (h : Tight front) (rest : List Char) :
    trimChars (front ++ rest) = front ++ dropBlankBack rest := by
  obtain ⟨⟨first, hfirst, hink⟩, last, hlast, hink'⟩ := h
  obtain ⟨middle, rfl⟩ := List.head?_eq_some_iff.1 hfirst
  have hkeep : dropBlankFront (first :: middle ++ rest) = first :: middle ++ rest := by simp [dropBlankFront, hink]
  obtain ⟨before, hbefore⟩ := List.getLast?_eq_some_iff.1 hlast
  rw [trimChars, hkeep, hbefore, List.append_assoc, List.singleton_append, dropBlankBack_append hink',
    List.append_assoc, List.singleton_append]

theorem Tight.trimChars {cs : List Char} (h : Tight cs) : trimChars cs = cs := by
  have hself := h.trimChars_append []
  rw [List.append_nil] at hself
  rw [hself]
  exact List.append_nil cs

theorem Tight.ne_nil {cs : List Char} (h : Tight cs) : cs ≠ [] := by
  rintro rfl
  obtain ⟨c, hc, -⟩ := h.first
  cases hc

theorem Tight.append {front rest : List Char} (hfront : ∃ c ∈ front.head?, isBlank c = false)
    (hrest : ∃ c ∈ rest.getLast?, isBlank c = false) : Tight (front ++ rest) := by
  obtain ⟨first, hfirst, hink⟩ := hfront
  obtain ⟨last, hlast, hink'⟩ := hrest
  exact ⟨⟨first, by simp [List.head?_append, Option.mem_def.1 hfirst], hink⟩,
    last, by simp [List.getLast?_append, Option.mem_def.1 hlast], hink'⟩

theorem Tight.append_space {cs ds : List Char} (hcs : Tight cs) (hds : Tight ds) : Tight (cs ++ ' ' :: ds) := by
  obtain ⟨last, hlast, hink⟩ := hds.last
  exact .append hcs.first ⟨last, by simp [List.getLast?_cons, Option.mem_def.1 hlast], hink⟩

theorem Solid.tight {cs : List Char} (h : Solid cs) (hne : cs ≠ []) : Tight cs :=
  ⟨⟨cs.head hne, List.head?_eq_some_head hne, h _ (List.head_mem hne)⟩,
    cs.getLast hne, List.getLast?_eq_some_getLast hne, h _ (List.getLast_mem hne)⟩

theorem trimChars_of_solid {cs : List Char} (h : Solid cs) : trimChars cs = cs := by
  by_cases hne : cs = []
  · rw [hne]
    rfl
  · exact (h.tight hne).trimChars

theorem tight_trimChars {cs : List Char} (h : trimChars cs ≠ []) : Tight (trimChars cs) := by
  obtain ⟨front, c, rest, -, hc, -, htrim⟩ := trimChars_eq_cons h
  rw [htrim]
  refine ⟨⟨c, rfl, hc⟩, ?_⟩
  cases hlast : (dropBlankBack rest).getLast? with
  | none =>
    rw [List.getLast?_eq_none_iff.1 hlast]
    exact ⟨c, rfl, hc⟩
  | some d =>
    refine ⟨d, by rw [List.getLast?_cons, hlast]; rfl, ?_⟩
    rw [dropBlankBack, List.getLast?_reverse] at hlast
    have hink := List.head?_dropWhile_not isBlank rest.reverse
    rw [hlast] at hink
    simpa using hink

theorem trimChars_trimChars (cs : List Char) : trimChars (trimChars cs) = trimChars cs := by
  by_cases hnil : trimChars cs = []
  · rw [hnil]
    rfl
  · exact (tight_trimChars hnil).trimChars

/-- a mark behind trimmed text ends it -/
theorem tight_mark (cs : List Char) {mark : Char} (hmark : isBlank mark = false) :
    Tight (Text.trimChars cs ++ [mark]) := by
  by_cases hnil : trimChars cs = []
  · rw [hnil]
    exact ⟨⟨mark, rfl, hmark⟩, mark, rfl, hmark⟩
  · exact .append (tight_trimChars hnil).first ⟨mark, rfl, hmark⟩

theorem trimChars_of_trim {text : String} (h : trim text = text) : trimChars text.toList = text.toList := by
  have chars := congrArg String.toList h
  rwa [trim, String.toList_ofList] at chars

theorem mem_of_mem_trimChars {c : Char} {cs : List Char} (h : c ∈ trimChars cs) : c ∈ cs :=
  (List.dropWhile_sublist _).subset (mem_of_mem_dropBlankBack h)

/-! ## What is not blank -/

/-- the characters of a text that are not blank -/
def ink (cs : List Char) : List Char := cs.filter fun c => !isBlank c

theorem ink_append (cs ds : List Char) : ink (cs ++ ds) = ink cs ++ ink ds := List.filter_append cs ds

theorem ink_blank {cs : List Char} (h : Blank cs) : ink cs = [] :=
  List.filter_eq_nil_iff.2 fun c hc => by simp [h c hc]

theorem ink_trimChars (cs : List Char) : ink (trimChars cs) = ink cs := by
  obtain ⟨before, behind, hbefore, hbehind, parts⟩ := exists_padding cs
  have whole := congrArg ink parts
  rw [ink_append, ink_append, ink_blank hbefore, ink_blank hbehind, List.nil_append, List.append_nil] at whole
  exact whole.symm

theorem Tight.head?_ink {cs : List Char} (h : Tight cs) : (ink cs).head? = cs.head? := by
  obtain ⟨c, hc, hink⟩ := h.first
  obtain ⟨rest, rfl⟩ := List.head?_eq_some_iff.1 hc
  simp [ink, hink]

theorem Tight.getLast?_ink {cs : List Char} (h : Tight cs) : (ink cs).getLast? = cs.getLast? := by
  obtain ⟨c, hc, hink⟩ := h.last
  obtain ⟨front, rfl⟩ := List.getLast?_eq_some_iff.1 hc
  simp [ink, hink]

end Playscript.Text
