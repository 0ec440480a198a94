/-
What a line is taken for, by its surface.

- `splitOnce_append`, `exists_of_splitOnce`: a text cut at the first mark of a kind;
- `HeadingParts`, `HeadingParts.heading?_eq`, `exists_headingParts`: what a line has to be made of to be a heading;
- `heading?_dropBlankBack`: blanks at the end of a line make no difference to what it is read as;
- `heading?_fold`, `heading?_pad`: nor do letter case and blanks before a colon at the end to whether it is a heading;
- `Numbers`, `heading?_line`: what a heading may give as a numeral is read from a heading that gives it;
- `LineKind`, `lineKind`: headings, directions, lines that name a speaker, and text.
-/
import Playscript.Play.Reading
import Playscript.Proofs.Text.Folding

namespace Playscript

/-! ## The first mark -/

theorem splitOnce_eq_none {mark : Char} {cs : List Char} (h : mark ∉ cs) : splitOnce mark cs = none := by
  have hall : ∀ c ∈ cs, (c != mark) = true := fun c hc => bne_iff_ne.2 fun e => h (e ▸ hc)
  have hdrop : cs.dropWhile (· != mark) = [] := List.dropWhile_eq_nil_iff.2 hall
  rw [splitOnce, hdrop]

theorem splitOnce_append {mark : Char} {front : List Char} (h : mark ∉ front) (back : List Char) :
    splitOnce mark (front ++ mark :: back) = some (front, back) := by
  have hall : ∀ c ∈ front, (c != mark) = true := fun c hc => bne_iff_ne.2 fun e => h (e ▸ hc)
  have hdrop : (front ++ mark :: back).dropWhile (· != mark) = mark :: back := by
    rw [List.dropWhile_append_of_pos hall]
    simp
  have htake : (front ++ mark :: back).takeWhile (· != mark) = front := by
    rw [List.takeWhile_append_of_pos hall]
    simp
  rw [splitOnce, hdrop, htake]

theorem exists_of_splitOnce {mark : Char} {cs front back : List Char} (h : splitOnce mark cs = some (front, back)) :
    cs = front ++ mark :: back ∧ mark ∉ front := by
  by_cases hmem : mark ∈ cs
  · obtain ⟨front', back', rfl, hfront⟩ := List.eq_append_cons_of_mem hmem
    rw [splitOnce_append hfront] at h
    cases h
    exact ⟨rfl, hfront⟩
  · rw [splitOnce_eq_none hmem] at h
    cases h

/-! ## The parts of a heading -/

/-- a line made of the keyword in any letter case, a space, one word up to a colon, and a description -/
structure HeadingParts (keyword : String) (line front before after : List Char) : Prop where
  cut : line = front ++ ' ' :: before ++ ':' :: after
  keyword : Text.sameFolded front keyword.toList = true
  no_colon : ':' ∉ before
  ne_nil : Text.trimChars before ≠ []
  solid : Text.Solid (Text.trimChars before)

theorem length_eq_of_sameFolded {a b : List Char} (h : Text.sameFolded a b = true) : a.length = b.length := by
  have lengths := congrArg List.length (Text.sameFolded_iff.1 h)
  simpa [Text.foldCase] using lengths

/-- **A line made of these parts is a heading.** -/
theorem HeadingParts.heading?_eq {keyword : String} {line front before after : List Char}
    (h : HeadingParts keyword line front before after) : heading? keyword line =
      some ⟨String.ofList (Text.trimChars before), String.ofList (Text.trimChars after)⟩ := by
  have length : front.length = keyword.length := by
    rw [length_eq_of_sameFolded h.keyword, String.length_toList]
  have htake : line.take keyword.length = front := by
    rw [h.cut, List.append_assoc, ← length, List.take_left]
  have hdrop : line.drop keyword.length = ' ' :: (before ++ ':' :: after) := by
    rw [h.cut, List.append_assoc, ← length, List.drop_left]
    rfl
  have hne : (Text.trimChars before).isEmpty = false := by simpa using h.ne_nil
  have hsolid : (Text.trimChars before).any Text.isBlank = false :=
    List.any_eq_false.2 fun c hc => by simp [h.solid c hc]
  unfold heading?
  rw [htake, hdrop, if_pos h.keyword]
  simp only [splitOnce_append h.no_colon, hne, hsolid, Bool.or_self, Bool.false_eq_true, if_false]

/-- **A heading is made of such parts.** -/
theorem exists_headingParts {keyword : String} {line : List Char} {heading : Heading}
    (h : heading? keyword line = some heading) : ∃ front before after, HeadingParts keyword line front before after ∧
      heading = ⟨String.ofList (Text.trimChars before), String.ofList (Text.trimChars after)⟩ := by
  unfold heading? at h
  split at h
  · rename_i hkeyword
    split at h
    · rename_i rest hrest
      split at h
      · rename_i before after hsplit
        obtain ⟨rfl, hcolon⟩ := exists_of_splitOnce hsplit
        dsimp only at h
        split at h
        · cases h
        · rename_i hnumeral
          obtain ⟨hne, hsolid⟩ : Text.trimChars before ≠ [] ∧ Text.Solid (Text.trimChars before) := by
            simpa [Text.Solid] using hnumeral
          refine ⟨line.take keyword.length, before, after, ⟨?_, hkeyword, hcolon, hne, hsolid⟩, (Option.some.inj h).symm⟩
          have whole := List.take_append_drop keyword.length line
          rw [hrest] at whole
          rw [List.append_assoc]
          exact whole.symm
      · cases h
    · cases h
  · cases h

/-- a heading has a colon -/
theorem heading?_eq_none {keyword : String} {line : List Char} (h : ':' ∉ line) : heading? keyword line = none := by
  refine Option.eq_none_iff_forall_ne_some.2 fun heading hheading => h ?_
  obtain ⟨front, before, after, parts, -⟩ := exists_headingParts hheading
  simp [parts.cut]

/-- a direction is no heading -/
theorem heading?_bracket {keyword : String} (hkeyword : keyword ∈ ["Act", "Scene"]) (cs : List Char) :
    heading? keyword ('[' :: cs) = none := by
  simp only [List.mem_cons, List.not_mem_nil, or_false] at hkeyword
  rcases hkeyword with rfl | rfl <;> rfl

/-! ## Blanks and letter case -/

/-- **Blanks at the end of a line** -/
theorem heading?_dropBlankBack (keyword : String) (cs : List Char) :
    heading? keyword (Text.dropBlankBack cs) = heading? keyword cs := by
  obtain ⟨back, hback, whole⟩ := Text.exists_back cs
  have colon : Text.isBlank ':' = false := rfl
  ext heading
  refine ⟨fun h => ?_, fun h => ?_⟩
  · obtain ⟨front, before, after, parts, rfl⟩ := exists_headingParts h
    have longer : HeadingParts keyword cs front before (after ++ back) :=
      { parts with cut := by rw [← whole, parts.cut, List.append_assoc, List.cons_append] }
    rw [longer.heading?_eq, Text.trimChars_append_blank after hback]
  · obtain ⟨front, before, after, parts, rfl⟩ := exists_headingParts h
    have shorter : HeadingParts keyword (Text.dropBlankBack cs) front before (Text.dropBlankBack after) :=
      { parts with cut := by rw [parts.cut, Text.dropBlankBack_append colon] }
    rw [shorter.heading?_eq, Text.trimChars_dropBlankBack]

/-- **Letter case** -/
theorem heading?_fold {keyword : String} {cs ds : List Char} (hsame : Text.foldCase cs = Text.foldCase ds)
    (h : heading? keyword cs = none) : heading? keyword ds = none := by
  refine Option.eq_none_iff_forall_ne_some.2 fun heading hheading => ?_
  obtain ⟨front, before, after, parts, -⟩ := exists_headingParts hheading
  rw [parts.cut] at hsame
  simp only [Text.foldCase, List.map_append, List.map_cons, List.append_assoc, List.cons_append] at hsame
  obtain ⟨front', _, rfl, hfront, hsame⟩ := List.map_eq_append_iff.1 hsame
  obtain ⟨space, _, rfl, hspace, hsame⟩ := List.map_eq_cons_iff.1 hsame
  obtain ⟨before', _, rfl, hbefore, hsame⟩ := List.map_eq_append_iff.1 hsame
  obtain ⟨colon, after', rfl, hcolon, -⟩ := List.map_eq_cons_iff.1 hsame
  have trimmed : (Text.trimChars before').map Char.toLower = (Text.trimChars before).map Char.toLower := by
    have both := congrArg Text.trimChars hbefore
    rwa [← Text.foldCase, ← Text.foldCase, Text.trimChars_foldCase, Text.trimChars_foldCase] at both
  obtain rfl : space = ' ' := (Text.toLower_eq_iff rfl).1 hspace
  obtain rfl : colon = ':' := (Text.toLower_eq_iff rfl).1 hcolon
  have same : HeadingParts keyword (front' ++ ' ' :: (before' ++ ':' :: after')) front' before' after' := by
    refine ⟨by simp, ?_, fun hmem => ?_, fun hnil => ?_, fun c hc => ?_⟩
    · rw [Text.sameFolded_iff, ← Text.sameFolded_iff.1 parts.keyword]
      exact hfront
    · obtain ⟨c, hc, hlower⟩ := List.mem_map.1 (hbefore ▸ List.mem_map_of_mem hmem)
      obtain rfl : c = ':' := (Text.toLower_eq_iff rfl).1 hlower
      exact parts.no_colon hc
    · rw [hnil] at trimmed
      exact parts.ne_nil (List.map_eq_nil_iff.1 trimmed.symm)
    · obtain ⟨d, hd, hlower⟩ := List.mem_map.1 (trimmed ▸ List.mem_map_of_mem hc)
      rw [← Text.isBlank_toLower, ← hlower, Text.isBlank_toLower]
      exact parts.solid d hd
  rw [same.heading?_eq] at h
  cases h

/-- **Blanks before a colon at the end** -/
theorem heading?_pad {keyword : String} {cs pad : List Char} (hpad : Text.Blank pad)
    (h : heading? keyword (cs ++ pad ++ [':']) = none) : heading? keyword (cs ++ [':']) = none := by
  refine Option.eq_none_iff_forall_ne_some.2 fun heading hheading => ?_
  obtain ⟨front, before, after, parts, -⟩ := exists_headingParts hheading
  have cut := parts.cut
  rcases List.eq_nil_or_concat after with rfl | ⟨after, last, rfl⟩
  · obtain ⟨rfl, -⟩ := List.append_inj' cut rfl
    have padded : HeadingParts keyword (front ++ ' ' :: before ++ pad ++ [':']) front (before ++ pad) [] :=
      { cut := by simp
        keyword := parts.keyword
        no_colon := fun hmem => (List.mem_append.1 hmem).elim parts.no_colon fun hmem => absurd (hpad _ hmem) (by decide)
        ne_nil := (Text.trimChars_append_blank before hpad).symm ▸ parts.ne_nil
        solid := (Text.trimChars_append_blank before hpad).symm ▸ parts.solid }
    rw [padded.heading?_eq] at h
    cases h
  · rw [List.concat_eq_append, ← List.cons_append, ← List.append_assoc] at cut
    obtain ⟨rfl, -⟩ := List.append_inj' cut rfl
    have padded : HeadingParts keyword (front ++ ' ' :: before ++ ':' :: after ++ pad ++ [':']) front before
        (after ++ pad ++ [':']) := { parts with cut := by simp }
    rw [padded.heading?_eq] at h
    cases h

/-! ## Numerals -/

/-- what a heading may give as a numeral: one word without a colon -/
structure Numbers (numeral : String) : Prop where
  ne_nil : numeral.toList ≠ []
  solid : Text.Solid numeral.toList
  no_colon : ':' ∉ numeral.toList

theorem Numbers.tight {numeral : String} (h : Numbers numeral) : Text.Tight numeral.toList := h.solid.tight h.ne_nil

/-- a heading as it is laid out -/
theorem heading?_line {keyword numeral : String} (h : Numbers numeral) (rest : List Char) :
    heading? keyword (keyword.toList ++ ' ' :: numeral.toList ++ ':' :: rest) =
      some ⟨numeral, String.ofList (Text.trimChars rest)⟩ := by
  have trimmed : Text.trimChars numeral.toList = numeral.toList := Text.trimChars_of_solid h.solid
  have parts : HeadingParts keyword (keyword.toList ++ ' ' :: numeral.toList ++ ':' :: rest) keyword.toList
      numeral.toList rest :=
    ⟨rfl, Text.sameFolded_iff.2 rfl, h.no_colon, trimmed.symm ▸ h.ne_nil, trimmed.symm ▸ h.solid⟩
  rw [parts.heading?_eq, trimmed, String.ofList_toList]

/-- a heading gives a numeral, and a description with nothing to trim -/
theorem numbers_of_heading {keyword : String} {line : List Char} {heading : Heading}
    (h : heading? keyword line = some heading) : Numbers heading.numeral := by
  obtain ⟨front, before, after, parts, rfl⟩ := exists_headingParts h
  refine ⟨?_, ?_, ?_⟩
  all_goals rw [String.toList_ofList]
  · exact parts.ne_nil
  · exact parts.solid
  · exact fun hmem => parts.no_colon (Text.mem_of_mem_trimChars hmem)

/-- the front of a heading, up to its colon -/
theorem Numbers.tight_heading {numeral : String} (h : Numbers numeral) {keyword : String}
    (hkeyword : keyword ∈ ["Act", "Scene"]) :
    Text.Tight (keyword.toList ++ (' ' :: numeral.toList ++ [':'])) ∧
      '\n' ∉ keyword.toList ++ (' ' :: numeral.toList ++ [':']) := by
  have hnewline : '\n' ∉ numeral.toList := fun hmem => absurd (h.solid _ hmem) (by decide)
  have begins : (∃ c ∈ keyword.toList.head?, Text.isBlank c = false) ∧ '\n' ∉ keyword.toList := by
    simp only [List.mem_cons, List.not_mem_nil, or_false] at hkeyword
    rcases hkeyword with rfl | rfl
    · exact ⟨⟨'A', rfl, rfl⟩, by decide⟩
    · exact ⟨⟨'S', rfl, rfl⟩, by decide⟩
  exact ⟨.append begins.1 ⟨':', List.getLast?_concat, rfl⟩, by simp [begins.2, hnewline]⟩

/-! ## Kinds of lines -/

inductive LineKind where
  | act
  | scene
  | direction
  | speaker
  | text
  deriving DecidableEq, Repr

/-- what a line below the title is taken for: headings come first, whatever else the line may be -/
def lineKind (line : List Char) : LineKind :=
  if (heading? "Act" line).isSome then .act
  else if (heading? "Scene" line).isSome then .scene
  else if line.head? = some '[' then .direction
  else if line.getLast? = some ':' then .speaker
  else .text

theorem lineKind_act {line : List Char} {heading : Heading} (h : heading? "Act" line = some heading) :
    lineKind line = .act := by
  rw [lineKind, h]
  rfl

theorem lineKind_scene {line : List Char} {heading : Heading} (hact : heading? "Act" line = none)
    (h : heading? "Scene" line = some heading) : lineKind line = .scene := by
  rw [lineKind, hact, h]
  rfl

/-- a line that is no heading -/
theorem lineKind_other {line : List Char} (hact : heading? "Act" line = none) (hscene : heading? "Scene" line = none) :
    lineKind line = if line.head? = some '[' then .direction
      else if line.getLast? = some ':' then .speaker else .text := by
  rw [lineKind, hact, hscene]
  rfl

theorem lineKind_ne_act {line : List Char} (h : heading? "Act" line = none) : lineKind line ≠ .act := by
  rw [lineKind, h]
  split_ifs <;> simp_all

theorem lineKind_eq_text_iff {line : List Char} : lineKind line = .text ↔ heading? "Act" line = none ∧
    heading? "Scene" line = none ∧ line.head? ≠ some '[' ∧ line.getLast? ≠ some ':' := by
  unfold lineKind
  by_cases hopen : line.head? = some '[' <;> by_cases hclose : line.getLast? = some ':' <;>
    cases heading? "Act" line <;> cases heading? "Scene" line <;> simp [hopen, hclose]

theorem lineKind_eq_speaker_iff {line : List Char} : lineKind line = .speaker ↔ heading? "Act" line = none ∧
    heading? "Scene" line = none ∧ line.head? ≠ some '[' ∧ line.getLast? = some ':' := by
  unfold lineKind
  by_cases hopen : line.head? = some '[' <;> by_cases hclose : line.getLast? = some ':' <;>
    cases heading? "Act" line <;> cases heading? "Scene" line <;> simp [hopen, hclose]

theorem lineKind_text {line : List Char} (hcolon : ':' ∉ line) (hbracket : '[' ∉ line) : lineKind line = .text := by
  have hopen : ¬line.head? = some '[' := fun e => hbracket (List.mem_of_head? e)
  have hclose : ¬line.getLast? = some ':' := fun e => hcolon (List.mem_of_getLast? e)
  rw [lineKind_other (heading?_eq_none hcolon) (heading?_eq_none hcolon), if_neg hopen, if_neg hclose]

theorem lineKind_bracket (cs : List Char) : lineKind ('[' :: cs) = .direction := by
  rw [lineKind_other (heading?_bracket (by simp) cs) (heading?_bracket (by simp) cs)]
  rfl

end Playscript
