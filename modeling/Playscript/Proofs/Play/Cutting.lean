/-
Cutting a text into sentences.

- `plain_or_cut`: a text is one piece, or is cut behind its first mark; the sentences of either;
- `CutApart`, `cutApart_sentencesOf`: what the sentences of a text look like;
- `splitSentences_of_cutApart`: such sentences are cut apart again when they are put together with spaces, and
  `splitSentences_again`: so are the sentences of any text;
- `ink_sentencesOf`: the sentences of a text have all that is not blank in it;
- `Scattered`, `sentencesOf_eq_iff`: a text is cut into the one list of such sentences that stand in it one after the
  other, with nothing but blanks around them;
- `splitSentences_faithful`: so cutting a text loses nothing, and cutting the sentences again changes nothing.
-/
import Playscript.Play.Sentences
import Playscript.Proofs.Text.Splitting
import Playscript.Proofs.Text.Trimming

namespace Playscript

/-! ## Pieces -/

theorem cutAfterMarks_append {body : List Char} (h : ∀ c ∈ body, isTerminator c = false) {mark : Char}
    (hmark : isTerminator mark = true) (rest : List Char) :
    cutAfterMarks (body ++ mark :: rest) = (body ++ [mark]) :: cutAfterMarks rest := by
  induction body with
  | nil => simp [cutAfterMarks, hmark]
  | cons c body ih =>
    rw [List.cons_append, cutAfterMarks, h c List.mem_cons_self, ih fun d hd => h d (List.mem_cons_of_mem c hd)]
    rfl

theorem cutAfterMarks_plain {cs : List Char} (hne : cs ≠ []) (h : ∀ c ∈ cs, isTerminator c = false) :
    cutAfterMarks cs = [cs] := by
  induction cs with
  | nil => exact absurd rfl hne
  | cons c cs ih =>
    rw [cutAfterMarks, h c List.mem_cons_self]
    cases cs with
    | nil => rfl
    | cons d cs =>
      rw [ih (List.cons_ne_nil d cs) fun e he => h e (List.mem_cons_of_mem c he)]
      rfl

/-- a text has no mark, or is cut behind its first one -/
theorem plain_or_cut (cs : List Char) : (∀ c ∈ cs, isTerminator c = false) ∨
    ∃ body mark rest, cs = body ++ mark :: rest ∧ (∀ c ∈ body, isTerminator c = false) ∧ isTerminator mark = true := by
  induction cs with
  | nil => exact .inl nofun
  | cons c cs ih =>
    cases hc : isTerminator c with
    | true => exact .inr ⟨[], c, cs, rfl, nofun, hc⟩
    | false =>
      rcases ih with hplain | ⟨body, mark, rest, rfl, hbody, hmark⟩
      · exact .inl (List.forall_mem_cons.2 ⟨hc, hplain⟩)
      · exact .inr ⟨c :: body, mark, rest, rfl, List.forall_mem_cons.2 ⟨hc, hbody⟩, hmark⟩

/-! ## Sentences -/

theorem sentencesOf_plain {cs : List Char} (h : ∀ c ∈ cs, isTerminator c = false) :
    sentencesOf cs = if Text.trimChars cs = [] then [] else [Text.trimChars cs] := by
  by_cases hne : cs = []
  · rw [hne]
    rfl
  · rw [sentencesOf, cutAfterMarks_plain hne h]
    split_ifs with hblank <;> simp [hblank]

theorem sentencesOf_cut {body : List Char} (h : ∀ c ∈ body, isTerminator c = false) {mark : Char}
    (hmark : isTerminator mark = true) (rest : List Char) :
    sentencesOf (body ++ mark :: rest) = (Text.dropBlankFront body ++ [mark]) :: sentencesOf rest := by
  have trimmed := Text.trimChars_concat body (isBlank_of_isTerminator hmark)
  rw [sentencesOf, cutAfterMarks_append h hmark, List.map_cons, trimmed]
  simp [sentencesOf]

theorem isTerminator_of_isBlank {b : Char} (hb : Text.isBlank b = true) : isTerminator b = false := by
  cases h : isTerminator b with
  | false => rfl
  | true => rw [isBlank_of_isTerminator h] at hb; cases hb

/-- blanks in front of a sentence do not belong to it -/
theorem sentencesOf_cons_blank {b : Char} (hb : Text.isBlank b = true) (cs : List Char) :
    sentencesOf (b :: cs) = sentencesOf cs := by
  have hmark := isTerminator_of_isBlank hb
  have htrim : ∀ piece, Text.trimChars (b :: piece) = Text.trimChars piece := fun piece => by
    simp [Text.trimChars, Text.dropBlankFront, hb]
  rw [sentencesOf, sentencesOf, cutAfterMarks, hmark]
  cases cutAfterMarks cs with
  | nil => simp [Text.extendFirst, htrim, Text.trimChars_nil]
  | cons piece pieces => simp only [Text.extendFirst, List.map_cons, htrim, Bool.false_eq_true, if_false]

theorem sentencesOf_blank_append {before : List Char} (h : Text.Blank before) (cs : List Char) :
    sentencesOf (before ++ cs) = sentencesOf cs := by
  induction before with
  | nil => rfl
  | cons b before ih =>
    rw [List.cons_append, sentencesOf_cons_blank (h b List.mem_cons_self)]
    exact ih fun c hc => h c (List.mem_cons_of_mem b hc)

/-- a sentence that begins with something is cut off as it is -/
theorem sentencesOf_ended {body : List Char} {mark : Char} (htight : Text.Tight (body ++ [mark]))
    (hbody : ∀ c ∈ body, isTerminator c = false) (hmark : isTerminator mark = true) (rest : List Char) :
    sentencesOf (body ++ [mark] ++ rest) = (body ++ [mark]) :: sentencesOf rest := by
  have trimmed := Text.trimChars_concat body (isBlank_of_isTerminator hmark)
  rw [List.append_assoc, List.singleton_append, sentencesOf_cut hbody hmark, ← trimmed, htight.trimChars]

/-- sentences in a row: they begin and end with something, and each ends with its only mark, but perhaps the last, which
may have none -/
inductive CutApart : List (List Char) → Prop where
  | nil : CutApart []
  | open {cs : List Char} : Text.Tight cs → (∀ c ∈ cs, isTerminator c = false) → CutApart [cs]
  | ended {body : List Char} {mark : Char} {sentences : List (List Char)} : Text.Tight (body ++ [mark]) →
    (∀ c ∈ body, isTerminator c = false) → isTerminator mark = true → CutApart sentences →
    CutApart ((body ++ [mark]) :: sentences)

/-- **The sentences of a text are cut apart.** -/
theorem cutApart_sentencesOf (cs : List Char) : CutApart (sentencesOf cs) := by
  rcases plain_or_cut cs with hplain | ⟨body, mark, rest, rfl, hbody, hmark⟩
  · rw [sentencesOf_plain hplain]
    split_ifs with hblank
    · exact .nil
    · exact .open (Text.tight_trimChars hblank) fun c hc => hplain c (Text.mem_of_mem_trimChars hc)
  · have trimmed := Text.trimChars_concat body (isBlank_of_isTerminator hmark)
    rw [sentencesOf_cut hbody hmark]
    refine .ended ?_ (fun c hc => hbody c ((List.dropWhile_sublist _).subset hc)) hmark (cutApart_sentencesOf rest)
    exact trimmed ▸ Text.tight_trimChars (by simp [trimmed])
termination_by cs.length
decreasing_by simp_all; omega

theorem CutApart.tight {sentences : List (List Char)} (h : CutApart sentences) :
    ∀ sentence ∈ sentences, Text.Tight sentence := by
  induction h with
  | nil => nofun
  | «open» htight _ => exact fun sentence hmem => List.mem_singleton.1 hmem ▸ htight
  | ended htight _ _ _ ih => exact List.forall_mem_cons.2 ⟨htight, ih⟩

/-- **Sentences that are cut apart are cut apart again** when they are put together. -/
theorem CutApart.sentencesOf_intercalate {sentences : List (List Char)} (h : CutApart sentences) :
    sentencesOf ([' '].intercalate sentences) = sentences := by
  induction h with
  | nil => rfl
  | @«open» cs htight hplain =>
    rw [List.intercalate_singleton, sentencesOf_plain hplain, htight.trimChars, if_neg htight.ne_nil]
  | @ended body mark sentences htight hbody hmark _ ih =>
    by_cases hlast : sentences = []
    · have first := sentencesOf_ended htight hbody hmark []
      rw [List.append_nil] at first
      rw [hlast, List.intercalate_singleton, first]
      rfl
    · rw [List.intercalate_cons_of_ne_nil hlast, List.append_assoc, sentencesOf_ended htight hbody hmark,
        sentencesOf_blank_append (by decide), ih]

theorem splitSentences_of_cutApart {sentences : List String} (h : CutApart (sentences.map String.toList)) :
    splitSentences (" ".intercalate sentences) = sentences := by
  have again := h.sentencesOf_intercalate
  rw [splitSentences, String.toList_intercalate, show " ".toList = [' '] from rfl, again, List.map_map]
  simp [Function.comp_def]

theorem toList_splitSentences (text : String) : (splitSentences text).map String.toList = sentencesOf text.toList := by
  simp [splitSentences, Function.comp_def]

/-- **Splitting the sentences of a text once more** changes nothing. -/
theorem splitSentences_again (text : String) :
    splitSentences (" ".intercalate (splitSentences text)) = splitSentences text :=
  splitSentences_of_cutApart (toList_splitSentences text ▸ cutApart_sentencesOf text.toList)

/-! ## What is said -/

theorem mem_of_mem_sentencesOf {cs sentence : List Char} (h : sentence ∈ sentencesOf cs) : ∀ c ∈ sentence, c ∈ cs := by
  rcases plain_or_cut cs with hplain | ⟨body, mark, rest, rfl, hbody, hmark⟩
  · rw [sentencesOf_plain hplain] at h
    split_ifs at h with hblank
    · cases h
    · rw [List.mem_singleton.1 h]
      exact fun c hc => Text.mem_of_mem_trimChars hc
  · rw [sentencesOf_cut hbody hmark] at h
    intro c hc
    rcases List.mem_cons.1 h with rfl | hrest
    · rw [← Text.trimChars_concat body (isBlank_of_isTerminator hmark)] at hc
      rw [List.append_cons, List.mem_append]
      exact .inl (Text.mem_of_mem_trimChars hc)
    · have hmem := mem_of_mem_sentencesOf hrest c hc
      simp [hmem]
termination_by cs.length
decreasing_by simp_all; omega

/-- **Nothing but blanks is lost** when a text is cut into sentences. -/
theorem ink_sentencesOf (cs : List Char) : (sentencesOf cs).flatMap Text.ink = Text.ink cs := by
  rcases plain_or_cut cs with hplain | ⟨body, mark, rest, rfl, hbody, hmark⟩
  · rw [sentencesOf_plain hplain, ← Text.ink_trimChars cs]
    split_ifs with hblank
    · rw [hblank]
      rfl
    · simp
  · rw [sentencesOf_cut hbody hmark, List.flatMap_cons, ink_sentencesOf rest, List.append_cons body mark rest,
      Text.ink_append (body ++ [mark]), ← Text.trimChars_concat body (isBlank_of_isTerminator hmark),
      Text.ink_trimChars]
termination_by cs.length
decreasing_by simp_all; omega

theorem ink_intercalate (sentences : List (List Char)) :
    Text.ink ([' '].intercalate sentences) = sentences.flatMap Text.ink := by
  induction sentences with
  | nil => rfl
  | cons sentence sentences ih =>
    by_cases hlast : sentences = []
    · simp [hlast]
    · have space : Text.ink [' '] = [] := by decide
      rw [List.intercalate_cons_of_ne_nil hlast, Text.ink_append, Text.ink_append, space, List.append_nil, ih,
        List.flatMap_cons]

theorem tight_intercalate {sentences : List (List Char)} (hne : sentences ≠ [])
    (h : ∀ sentence ∈ sentences, Text.Tight sentence) : Text.Tight ([' '].intercalate sentences) := by
  induction sentences with
  | nil => exact absurd rfl hne
  | cons sentence sentences ih =>
    obtain ⟨hfirst, hrest⟩ := List.forall_mem_cons.1 h
    by_cases hlast : sentences = []
    · rwa [hlast, List.intercalate_singleton]
    · rw [List.intercalate_cons_of_ne_nil hlast, List.append_assoc]
      exact hfirst.append_space (ih hlast hrest)

/-! ## Where the sentences stand -/

/-- sentences stand in a text one after the other, with nothing but blanks around them -/
inductive Scattered : List (List Char) → List Char → Prop where
  | nil {rest : List Char} : Text.Blank rest → Scattered [] rest
  | cons {before sentence rest : List Char} {sentences : List (List Char)} : Text.Blank before →
    Scattered sentences rest → Scattered (sentence :: sentences) (before ++ (sentence ++ rest))

theorem sentencesOf_blank {cs : List Char} (h : Text.Blank cs) : sentencesOf cs = [] := by
  have dropped := sentencesOf_blank_append h []
  rwa [List.append_nil] at dropped

/-- the sentences of a text stand in it -/
theorem scattered_sentencesOf (cs : List Char) : Scattered (sentencesOf cs) cs := by
  rcases plain_or_cut cs with hplain | ⟨body, mark, rest, rfl, hbody, hmark⟩
  · rw [sentencesOf_plain hplain]
    split_ifs with hblank
    · exact .nil (Text.trimChars_eq_nil_iff.1 hblank)
    · obtain ⟨before, behind, hbefore, hbehind, parts⟩ := Text.exists_padding cs
      have only : Scattered [Text.trimChars cs] (before ++ (Text.trimChars cs ++ behind)) :=
        .cons hbefore (.nil hbehind)
      rwa [← List.append_assoc, ← parts] at only
  · have parts : body ++ mark :: rest =
        body.takeWhile Text.isBlank ++ ((Text.dropBlankFront body ++ [mark]) ++ rest) := by
      rw [Text.dropBlankFront, List.append_assoc, List.singleton_append, ← List.append_assoc,
        List.takeWhile_append_dropWhile]
    rw [sentencesOf_cut hbody hmark, parts]
    exact .cons (fun c hc => List.mem_takeWhile_imp hc) (scattered_sentencesOf rest)
termination_by cs.length
decreasing_by simp_all; omega

/-- **A text is cut into the sentences that stand in it**: there is one way only to take it for sentences that are cut
apart. -/
theorem sentencesOf_eq_iff {cs : List Char} {sentences : List (List Char)} :
    sentencesOf cs = sentences ↔ CutApart sentences ∧ Scattered sentences cs := by
  constructor
  · intro h
    rw [← h]
    exact ⟨cutApart_sentencesOf cs, scattered_sentencesOf cs⟩
  · rintro ⟨hcut, hstand⟩
    induction hcut generalizing cs with
    | nil =>
      cases hstand with
      | nil hblank => exact sentencesOf_blank hblank
    | @«open» sentence htight hplain =>
      cases hstand with
      | cons hbefore hrest =>
        cases hrest with
        | nil hblank =>
          rename_i rest
          have unmarked : ∀ c ∈ sentence ++ rest, isTerminator c = false := by
            intro c hc
            rcases List.mem_append.1 hc with hc | hc
            · exact hplain c hc
            · exact isTerminator_of_isBlank (hblank c hc)
          rw [sentencesOf_blank_append hbefore, sentencesOf_plain unmarked, Text.trimChars_append_blank _ hblank,
            htight.trimChars, if_neg htight.ne_nil]
    | ended htight hbody hmark _ ih =>
      cases hstand with
      | cons hbefore hrest => rw [sentencesOf_blank_append hbefore, sentencesOf_ended htight hbody hmark, ih hrest]

/-- a mark is the last character of its sentence -/
theorem CutApart.unmarked {sentences : List (List Char)} (h : CutApart sentences) :
    ∀ sentence ∈ sentences, ∀ c ∈ sentence.dropLast, isTerminator c = false := by
  induction h with
  | nil => nofun
  | «open» _ hplain =>
    intro sentence hmem c hc
    rw [List.mem_singleton.1 hmem] at hc
    exact hplain c ((List.dropLast_sublist _).subset hc)
  | ended _ hbody _ _ ih =>
    refine List.forall_mem_cons.2 ⟨fun c hc => ?_, ih⟩
    rw [List.dropLast_concat] at hc
    exact hbody c hc

/-- only the last sentence may have no mark -/
theorem CutApart.marked {sentences : List (List Char)} (h : CutApart sentences) :
    ∀ sentence ∈ sentences.dropLast, ∃ mark ∈ sentence.getLast?, isTerminator mark = true := by
  induction h with
  | nil => nofun
  | «open» => nofun
  | @ended body mark sentences _ _ hmark _ ih =>
    cases sentences with
    | nil => nofun
    | cons next sentences =>
      rw [List.dropLast_cons_cons]
      exact List.forall_mem_cons.2 ⟨⟨mark, by simp, hmark⟩, ih⟩

/-- **Cutting a text into sentences loses nothing and is stable.** Every sentence is trimmed, is not empty and has no
mark before its last character, and all but perhaps the last end with one. They stand in the text with nothing but
blanks around them, so they have all that is not blank in it. Cut again, with spaces between them, they are the same. -/
theorem splitSentences_faithful (text : String) :
    let sentences := splitSentences text
    (∀ sentence ∈ sentences, sentence ≠ "" ∧ Text.trim sentence = sentence ∧
      ∀ c ∈ sentence.toList.dropLast, isTerminator c = false) ∧
    (∀ sentence ∈ sentences.dropLast, ∃ mark ∈ sentence.toList.getLast?, isTerminator mark = true) ∧
    Scattered (sentences.map String.toList) text.toList ∧
    Text.ink (String.join sentences).toList = Text.ink text.toList ∧
    splitSentences (" ".intercalate sentences) = sentences := by
  intro sentences
  have listed : sentences.map String.toList = sentencesOf text.toList := toList_splitSentences text
  obtain ⟨hcut, hstand⟩ := sentencesOf_eq_iff.1 listed.symm
  have whole : Text.ink (String.join sentences).toList = Text.ink text.toList := by
    calc Text.ink (String.join sentences).toList
        = Text.ink (sentences.map String.toList).flatten := by rw [String.toList_join, List.flatMap_def]
      _ = (sentences.map String.toList).flatMap Text.ink := List.filter_flatten
      _ = Text.ink text.toList := by rw [listed, ink_sentencesOf]
  refine ⟨fun sentence hmem => ?_, fun sentence hmem => ?_, hstand, whole, splitSentences_again text⟩
  · have among : sentence.toList ∈ sentences.map String.toList := List.mem_map_of_mem hmem
    have tight := hcut.tight _ among
    refine ⟨?_, ?_, hcut.unmarked _ among⟩
    · rintro rfl
      exact tight.ne_nil rfl
    · rw [Text.trim, tight.trimChars, String.ofList_toList]
  · apply hcut.marked
    rw [← List.map_dropLast]
    exact List.mem_map_of_mem hmem

-- a mark next to a mark, blanks before a mark and a rest without one
example : splitSentences "Who?! Go .  Stay" = ["Who?", "!", "Go .", "Stay"] := by decide

end Playscript
