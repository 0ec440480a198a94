/-
Texts that are one word.

- `mem_ofBody`: a word of a text is not empty and has no blanks, and what is the same word up to letter case is like that
  too (`solid_of_same`);
- `ofBody_solid`, `ofBody_single`: a text without blanks is one word, if no comma is cut off it;
- `ofText_unmarked`, `EndsBare`: the words of a text in which no mark ends a sentence, and of one that does not end with a
  mark;
- `endsBare_of_ofText`: a text that is its own one word is such a text.
-/
import Playscript.Proofs.Text.Lowercase

namespace Playscript

namespace Text

/-- whatever is the same word as one without blanks has none -/
theorem solid_of_same {a b : String} (h : same a b = true) (hb : b.toList ≠ [] ∧ Solid b.toList) :
    a.toList ≠ [] ∧ Solid a.toList := by
  have folded : foldCase a.toList = foldCase b.toList := sameFolded_iff.1 h
  refine ⟨fun hnil => hb.1 ?_, fun c hc => ?_⟩
  · rw [hnil] at folded
    exact List.map_eq_nil_iff.1 folded.symm
  · have hmem : c.toLower ∈ foldCase b.toList := folded ▸ List.mem_map_of_mem hc
    obtain ⟨d, hd, hlower⟩ := List.mem_map.1 hmem
    rw [← isBlank_toLower, ← hlower, isBlank_toLower]
    exact hb.2 d hd

/-- blanks behind a text add no word to it -/
theorem splitBlank_append_blanks (cs : List Char) {back : List Char} (h : Blank back) :
    splitBlank (cs ++ back) = splitBlank cs := by
  have none : ∀ {back : List Char}, Blank back → splitBlank back = [] := by
    intro back h
    induction back with
    | nil => rfl
    | cons b back ih =>
      rw [splitBlank_cons_blank (h b List.mem_cons_self)]
      exact ih fun c hc => h c (List.mem_cons_of_mem b hc)
  cases back with
  | nil => rw [List.append_nil]
  | cons b back =>
    have hback : Blank back := fun c hc => h c (List.mem_cons_of_mem b hc)
    rw [splitBlank_append_blank cs (h b List.mem_cons_self), none hback, List.append_nil]

/-- **Trimming keeps the words** of a text. -/
theorem splitBlank_trimChars (cs : List Char) : splitBlank (trimChars cs) = splitBlank cs := by
  obtain ⟨back, hback, parts⟩ := exists_back (dropBlankFront cs)
  rw [trimChars, ← splitBlank_append_blanks _ hback, parts, splitBlank_dropBlankFront]

end Text

namespace Words

/-- a word of a text is not empty and has no blanks, also where a comma is cut off it -/
theorem mem_ofBody {body x : String} (h : x ∈ ofBody body) : x.toList ≠ [] ∧ Text.Solid x.toList := by
  obtain ⟨piece, hpiece, hx⟩ := List.mem_flatMap.1 h
  obtain ⟨hne, hsolid, -⟩ := Text.mem_splitBlank hpiece
  have comma : ",".toList ≠ [] ∧ Text.Solid ",".toList := ⟨by decide, by simp [Text.Solid, Text.isBlank, Text.isAscii]⟩
  unfold ofPiece at hx
  split_ifs at hx with hcomma hempty
  · exact List.mem_singleton.1 hx ▸ comma
  · simp only [List.mem_cons, List.not_mem_nil, or_false] at hx
    rcases hx with rfl | rfl
    · rw [String.toList_ofList]
      exact ⟨by simpa using hempty, fun c hc => hsolid c (List.dropLast_subset _ hc)⟩
    · exact comma
  · rw [List.mem_singleton.1 hx, String.toList_ofList]
    exact ⟨hne, hsolid⟩

theorem ofBody_solid {body : String} (hne : body.toList ≠ []) (hsolid : Text.Solid body.toList) :
    ofBody body = ofPiece body.toList := by
  obtain ⟨c, cs, hcs⟩ := List.exists_cons_of_ne_nil hne
  rw [hcs] at hsolid
  rw [ofBody, hcs, Text.splitBlank_of_solid hsolid, List.flatMap_singleton]

/-- **A text without blanks and commas is one word.** -/
theorem ofBody_single {word : String} (hne : word.toList ≠ []) (hsolid : Text.Solid word.toList)
    (hcomma : word.toList.getLast? ≠ some ',') : ofBody word = [word] := by
  rw [ofBody_solid hne hsolid, ofPiece, if_neg hcomma, String.ofList_toList]

/-- a text that no mark ends has the words that it has before a mark -/
theorem ofText_unmarked {text : String} (h : ∀ c ∈ text.toList, isTerminator c = false) : ofText text = ofBody text := by
  have kept : dropTerminator (Text.trimChars text.toList) = Text.trimChars text.toList := by
    unfold dropTerminator
    cases hlast : (Text.trimChars text.toList).getLast? with
    | none => rfl
    | some c =>
      have hmark := h c (Text.mem_of_mem_trimChars (List.mem_of_getLast? hlast))
      simp [hmark]
  rw [ofText, kept, Text.splitBlank_trimChars, ofBody]

/-- a text with neither a blank nor a mark at its end -/
def EndsBare (text : String) : Prop := ∃ c ∈ text.toList.getLast?, Text.isBlank c = false ∧ isTerminator c = false

theorem EndsBare.append {text : String} (h : EndsBare text) (before : String) : EndsBare (before ++ text) := by
  obtain ⟨c, hc, hbare⟩ := h
  exact ⟨c, by simp [String.toList_append, List.getLast?_append, Option.mem_def.1 hc], hbare⟩

/-- nothing is dropped from the end of such a text -/
theorem EndsBare.ofText {text : String} (h : EndsBare text) : ofText text = ofBody text := by
  obtain ⟨c, hc, hblank, hmark⟩ := h
  obtain ⟨front, hfront⟩ := List.getLast?_eq_some_iff.1 hc
  have kept : dropTerminator (Text.trimChars text.toList) = Text.trimChars text.toList := by
    rw [hfront, Text.trimChars_concat _ hblank]
    simp [dropTerminator, hmark]
  rw [Words.ofText, kept, Text.splitBlank_trimChars, ofBody]

theorem mem_ofText {text x : String} (h : x ∈ ofText text) : x.toList ≠ [] ∧ Text.Solid x.toList := by
  have left : x ∈ ofBody (String.ofList (dropTerminator (Text.trimChars text.toList))) := by
    rwa [ofBody, String.toList_ofList]
  exact mem_ofBody left

theorem length_le_of_mem_ofPiece {piece : List Char} {x : String} (h : x ∈ ofPiece piece) :
    x.toList.length ≤ piece.length := by
  unfold ofPiece at h
  split_ifs at h with hcomma hempty
  · obtain ⟨front, rfl⟩ := List.getLast?_eq_some_iff.1 hcomma
    simp [List.mem_singleton.1 h]
  · obtain ⟨front, rfl⟩ := List.getLast?_eq_some_iff.1 hcomma
    simp only [List.mem_cons, List.not_mem_nil, or_false] at h
    rcases h with rfl | rfl <;> simp
  · simp [List.mem_singleton.1 h]

/-- **A text that is its own one word** has no mark at its end, for that would be dropped. -/
theorem endsBare_of_ofText {word : String} (h : ofText word = [word]) : EndsBare word := by
  obtain ⟨hne, hsolid⟩ := mem_ofText (h ▸ List.mem_singleton_self word)
  have hlast := List.getLast?_eq_some_getLast hne
  refine ⟨_, hlast, hsolid _ (List.getLast_mem hne), Bool.eq_false_iff.2 fun hmark => ?_⟩
  obtain ⟨front, hword⟩ := List.getLast?_eq_some_iff.1 hlast
  generalize word.toList.getLast hne = c at hmark hword
  -- what is left without the mark is shorter than the word
  have left : ofText word = (Text.splitBlank front).flatMap ofPiece := by
    rw [ofText, Text.trimChars_of_solid hsolid, hword, dropTerminator_concat _ hmark]
  obtain ⟨piece, hpiece, hmem⟩ := List.mem_flatMap.1 (left ▸ h ▸ List.mem_singleton_self word)
  have whole : piece = front := by
    cases front with
    | nil => cases hpiece
    | cons first front =>
      have solid : Text.Solid (first :: front) := fun d hd => hsolid d (hword ▸ List.mem_append_left _ hd)
      rwa [Text.splitBlank_of_solid solid, List.mem_singleton] at hpiece
  have shorter := length_le_of_mem_ofPiece hmem
  rw [whole, hword, List.length_append, List.length_singleton] at shorter
  omega

/-- such a word is one word wherever it stands -/
theorem ofBody_of_ofText {word : String} (h : ofText word = [word]) : ofBody word = [word] := by
  rw [← (endsBare_of_ofText h).ofText, h]

end Words

end Playscript
