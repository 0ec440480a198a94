/-
Templates put together from their pieces.

- `identifierFor_placeable`: the identifier of a name without braces can stand between braces;
- `pieces_escapeBrace`, `pieces_braced`: a character is read from what spells it, and an identifier from between
  braces;
- `Piece.spelled`, `pieces_spelled`: a template spelled piece by piece is read as these pieces, if its identifiers can
  stand between braces (`Ident.Placeable`);
- `Piece.said`, `fill_gather`: filling the pieces in with names, where all have names already, says one piece after the
  other and gives out no name.
-/
import Playscript.Proofs.Cast
import Playscript.Proofs.Text.Lowercase

namespace Playscript

/-- an identifier that is read again from between braces as it is -/
structure Ident.Placeable (id : Ident) : Prop where
  nonempty : id.text.toList ≠ []
  trimmed : Text.trimChars id.text.toList = id.text.toList
  plain : ∀ c ∈ id.text.toList, Template.isBrace c = false

/-! ## Identifiers derived from names -/

namespace Text

theorem splitBlank_of_trimChars {cs : List Char} (h : trimChars cs ≠ []) : splitBlank cs ≠ [] := by
  rw [← splitBlank_dropBlankFront]
  cases hfront : dropBlankFront cs with
  | nil => exact absurd (by rw [trimChars, hfront]; rfl) h
  | cons c rest =>
    have hc := List.head?_dropWhile_not isBlank cs
    rw [show cs.dropWhile isBlank = c :: rest from hfront] at hc
    exact splitBlank_ne_nil hc rest

theorem intercalate_ne_nil {sep word : List Char} (h : word ≠ []) (words : List (List Char)) :
    sep.intercalate (word :: words) ≠ [] := by
  cases words with
  | nil => rwa [List.intercalate_singleton]
  | cons next words =>
    rw [List.intercalate_cons_cons, List.append_assoc]
    exact fun hnil => h (List.append_eq_nil_iff.1 hnil).1

end Text

namespace Template

/-- the code points of the two braces -/
def braceCodes : List Nat := [0x7b, 0x7d]

theorem isBrace_iff {c : Char} : isBrace c = true ↔ c.toNat ∈ braceCodes := by
  have code : ∀ d : Char, c = d ↔ c.toNat = d.toNat := fun d => ⟨congrArg Char.toNat, Char.toNat_inj.1⟩
  simp only [isBrace, braceCodes, Bool.or_eq_true, beq_iff_eq, code, List.mem_cons, List.not_mem_nil, or_false]
  rfl

/-- no letter becomes a brace when it is made small -/
theorem unreached_braces : Text.Unreached braceCodes := by
  constructor <;> decide +kernel

end Template

theorem toList_identifierFor (name : String) : (identifierFor name).text.toList =
    ['_'].intercalate ((Text.splitBlank name.toList).map (Text.lowercaseFrom [])) := by
  have small : ∀ word ∈ Text.splitBlank name.toList,
      (Text.lowercase (String.ofList word)).toList = Text.lowercaseFrom [] word := by
    intro word _
    rw [Text.lowercase, String.toList_ofList, String.toList_ofList]
  rw [identifierFor, String.toList_intercalate, Text.words, List.map_map, List.map_map, ← List.map_congr_left small]
  rfl

/-- the characters of an identifier come from the words of its name, made small, or join these -/
theorem mem_identifierFor {name : String} {c : Char} (h : c ∈ (identifierFor name).text.toList) :
    c = '_' ∨ ∃ word ∈ Text.splitBlank name.toList, c ∈ Text.lowercaseFrom [] word := by
  rw [toList_identifierFor] at h
  rcases Text.mem_intercalate h with h | ⟨small, hsmall, h⟩
  · exact .inl (List.mem_singleton.1 h)
  · obtain ⟨word, hword, rfl⟩ := List.mem_map.1 hsmall
    exact .inr ⟨word, hword, h⟩

/-- **The identifier of a name that is not blank and holds no brace can stand between braces.** -/
theorem identifierFor_placeable {name : String} (hink : Text.trim name ≠ "")
    (plain : ∀ c ∈ name.toList, Template.isBrace c = false) : (identifierFor name).Placeable := by
  refine ⟨?_, Text.trimChars_of_solid fun c hc => ?_, fun c hc => ?_⟩
  · have hwords : Text.splitBlank name.toList ≠ [] := by
      refine Text.splitBlank_of_trimChars fun hnil => hink ?_
      rw [Text.trim, hnil]
    obtain ⟨word, words, hsplit⟩ := List.exists_cons_of_ne_nil hwords
    have hword : word ≠ [] := (Text.mem_splitBlank (hsplit ▸ List.mem_cons_self)).1
    obtain ⟨c, rest, rfl⟩ := List.exists_cons_of_ne_nil hword
    rw [toList_identifierFor, hsplit, List.map_cons]
    exact Text.intercalate_ne_nil (Text.lowercaseFrom_ne_nil [] c rest) _
  · rcases mem_identifierFor hc with rfl | ⟨word, hword, hc⟩
    · decide
    · exact Text.lowercaseFrom_solid (Text.mem_splitBlank hword).2.1 [] c hc
  · rcases mem_identifierFor hc with rfl | ⟨word, hword, hc⟩
    · decide
    · refine Bool.eq_false_iff.2 fun hbrace => ?_
      obtain ⟨d, hd, hcode⟩ := Template.unreached_braces.of_lowercaseFrom hc (Template.isBrace_iff.1 hbrace)
      exact Bool.eq_false_iff.1 (plain d ((Text.mem_splitBlank hword).2.2 d hd)) (Template.isBrace_iff.2 hcode)

namespace Template

/-- a piece as a template spells it -/
def Piece.spelled : Piece → List Char
  | .char c => escapeBrace c
  | .placeholder id => placeholderText id

/-- a piece with the names that a cast has for its characters -/
def Piece.said (cast : Cast) : Piece → List Char
  | .char c => [c]
  | .placeholder id => ((cast.nameOf id).getD "").toList

/-! ## Reading -/

/-- what is not blank between braces is an identifier, blanks at its ends left out -/
theorem identifier?_of_ink {content : List Char} (h : ¬ Text.Blank content) :
    identifier? content = .ok ⟨String.ofList (Text.trimChars content)⟩ := by
  have ink : Text.trimChars content ≠ [] := mt Text.trimChars_eq_nil_iff.1 h
  unfold identifier?
  split
  · contradiction
  · rfl

/-- a character stands for itself, a brace if it is doubled -/
theorem pieces_escapeBrace (c : Char) (text : List Char) :
    pieces (escapeBrace c ++ text) = (.char c :: ·) <$> pieces text := by
  by_cases hopen : c = '\x7b'
  · subst hopen
    have doubled : escapeBrace '\x7b' ++ text = '\x7b' :: '\x7b' :: text := rfl
    rw [doubled, pieces, if_pos rfl, if_pos List.head?_cons]
    rfl
  · by_cases hclose : c = '\x7d'
    · subst hclose
      have doubled : escapeBrace '\x7d' ++ text = '\x7d' :: '\x7d' :: text := rfl
      rw [doubled, pieces, if_neg (by decide), if_pos rfl, if_pos List.head?_cons]
      rfl
    · have single : escapeBrace c ++ text = c :: text := by
        rw [escapeBrace, if_neg (by simp [isBrace, hopen, hclose])]
        rfl
      rw [single, pieces, if_neg hopen, if_neg hclose]
      rfl

/-- **What stands between braces is a placeholder**, if it is not blank and has no brace in it. -/
theorem pieces_braced {content : List Char} (plain : ∀ c ∈ content, isBrace c = false) (ink : ¬ Text.Blank content)
    (text : List Char) : pieces ('\x7b' :: (content ++ '\x7d' :: text)) =
      (.placeholder ⟨String.ofList (Text.trimChars content)⟩ :: ·) <$> pieces text := by
  have inside : ∀ c ∈ content, (!isBrace c) = true := fun c hc => by rw [plain c hc]; rfl
  have before : (content ++ '\x7d' :: text).takeWhile (fun c => !isBrace c) = content := by
    rw [List.takeWhile_append_of_pos inside]
    exact List.append_nil _
  have behind : (content ++ '\x7d' :: text).dropWhile (fun c => !isBrace c) = '\x7d' :: text := by
    rw [List.dropWhile_append_of_pos inside]
    rfl
  have single : (content ++ '\x7d' :: text).head? ≠ some '\x7b' := by
    cases content with
    | nil => exact absurd (fun _ hnone => absurd hnone List.not_mem_nil) ink
    | cons c cs =>
      intro heq
      cases heq
      exact absurd (plain '\x7b' List.mem_cons_self) (by decide)
  rw [pieces, if_pos rfl, if_neg single, before, behind, if_pos List.head?_cons, identifier?_of_ink ink]
  rfl

theorem pieces_placeholder {id : Ident} (h : id.Placeable) (text : List Char) :
    pieces (placeholderText id ++ text) = (.placeholder id :: ·) <$> pieces text := by
  have opened : placeholderText id ++ text = '\x7b' :: (id.text.toList ++ '\x7d' :: text) := by
    rw [placeholderText, List.cons_append, List.cons_append, List.append_assoc]
    rfl
  have ink : ¬ Text.Blank id.text.toList := fun hblank =>
    h.nonempty (h.trimmed.symm.trans (Text.trimChars_eq_nil_iff.2 hblank))
  rw [opened, pieces_braced h.plain ink, h.trimmed, String.ofList_toList]

/-- **A template spelled from pieces is read as these pieces.** -/
theorem pieces_spelled {parts : List Piece} (h : ∀ id, .placeholder id ∈ parts → id.Placeable) :
    pieces (parts.flatMap Piece.spelled) = .ok parts := by
  induction parts with
  | nil => rw [List.flatMap_nil, pieces]
  | cons part parts ih =>
    have ih := ih fun id hid => h id (List.mem_cons_of_mem _ hid)
    rw [List.flatMap_cons]
    cases part with
    | char c =>
      rw [Piece.spelled, pieces_escapeBrace, ih]
      rfl
    | placeholder id =>
      rw [Piece.spelled, pieces_placeholder (h id List.mem_cons_self), ih]
      rfl

end Template

/-! ## Filling in -/

namespace Cast

open Template

theorem allocate_of_nameOf {cast : Cast} {id : Ident} {name : String} (h : cast.nameOf id = some name) :
    cast.allocate id = .ok (name, cast) := by
  rw [allocate, h]

theorem fill_consChar (cast : Cast) (c : Char) (segments : List Segment) :
    cast.fill (consChar c segments) =
      ((cast.fill segments).1.map (String.singleton c ++ ·), (cast.fill segments).2) := by
  unfold consChar
  split
  · rename_i text rest
    rw [fill, fill]
    rcases cast.fill rest with ⟨_ | filled, next⟩
    · rfl
    · exact congrArg (fun text => (Except.ok text, next)) (String.append_assoc ..)
  · rw [fill]

/-- **Where all characters have names**, filling in says one piece after the other and changes nothing. -/
theorem fill_gather {cast : Cast} {parts : List Piece}
    (h : ∀ id, .placeholder id ∈ parts → ∃ name, cast.nameOf id = some name) :
    cast.fill (gather parts) = (.ok (String.ofList (parts.flatMap (Piece.said cast))), cast) := by
  induction parts with
  | nil => rfl
  | cons part parts ih =>
    have ih := ih fun id hid => h id (List.mem_cons_of_mem _ hid)
    rw [List.flatMap_cons]
    cases part with
    | char c =>
      rw [gather, fill_consChar, ih, Piece.said, String.ofList_append]
      rfl
    | placeholder id =>
      obtain ⟨name, hname⟩ := h id List.mem_cons_self
      rw [gather, fill, allocate_of_nameOf hname]
      dsimp only
      rw [ih, Piece.said, hname, Option.getD_some, String.ofList_append, String.ofList_toList]
      rfl

end Cast

end Playscript
