/-
Names found in running text, and put back.

- `standsAt_congr`, `nameAt?_congr`: whether a name stands at a place does not depend on the case of ASCII letters;
- `Scans`: the pieces for which a text is taken when names are found in it; restoring spells them (`restoreFrom_eq`);
- `Scans.foldCase_said`: said with the names of the cast, they are the text again, up to the case of ASCII letters;
- `Scans.respelled`: and the same pieces are found again in what they say;
- `substitute_restore`: so what has been restored can be filled in with no new names, and restored again it is the same.
-/
import Playscript.Proofs.Cast.Template
import Playscript.Proofs.Text.Lowercase

namespace Playscript

/-! ## The case of ASCII letters -/

namespace Text

theorem isWordChar_capitals : ∀ i < 26, isWordChar (Char.ofNat (65 + i)).toLower = isWordChar (Char.ofNat (65 + i)) := by
  decide

theorem isWordChar_toLower (c : Char) : isWordChar c.toLower = isWordChar c := by
  rcases toLower_eq_or c with hsmall | ⟨i, hi, rfl⟩
  · rw [hsmall]
  · exact isWordChar_capitals i hi

end Text

namespace Cast

open Template

/-! ## Names at a place -/

/-- a name stands where its letters are, in whatever case, and no word goes on after it -/
theorem standsAt_iff {text name : List Char} :
    standsAt text name = true ↔
      Text.foldCase (text.take name.length) = Text.foldCase name ∧
        ∀ c, (text.drop name.length).head? = some c → Text.isWordChar c = false := by
  unfold standsAt afterName? Text.sameFolded
  by_cases hsame : Text.foldCase (text.take name.length) = Text.foldCase name
  · rw [if_pos (by simpa using hsame)]
    cases text.drop name.length with
    | nil => simp [hsame]
    | cons c rest => simp [hsame]
  · rw [if_neg (by simpa using hsame)]
    simp [hsame]

theorem standsAt_of_folded {text text' : List Char} (h : Text.foldCase text = Text.foldCase text') {name : List Char}
    (hstands : standsAt text name = true) : standsAt text' name = true := by
  obtain ⟨hfront, hbehind⟩ := standsAt_iff.1 hstands
  refine standsAt_iff.2 ⟨(Text.foldCase_take h _).symm.trans hfront, fun c hc => ?_⟩
  -- the character behind the name is the same, but for its case
  have same := congrArg List.head? (Text.foldCase_drop h name.length)
  simp only [Text.foldCase, List.head?_map, hc, Option.map_some] at same
  obtain ⟨c', hc', hlower⟩ := Option.map_eq_some_iff.1 same
  rw [← Text.isWordChar_toLower, ← hlower, Text.isWordChar_toLower]
  exact hbehind c' hc'

theorem standsAt_congr {text text' : List Char} (h : Text.foldCase text = Text.foldCase text') (name : List Char) :
    standsAt text name = standsAt text' name :=
  Bool.eq_iff_iff.2 ⟨standsAt_of_folded h, standsAt_of_folded h.symm⟩

theorem nameAt?_congr {text text' : List Char} (h : Text.foldCase text = Text.foldCase text')
    (members : List (Ident × String)) : nameAt? members text = nameAt? members text' := by
  unfold nameAt?
  congr 1
  exact funext fun member => standsAt_congr h member.2.toList

/-! ## Scanning -/

/-- the pieces for which a text is taken; `inWord` tells that a word has begun before it -/
inductive Scans (members : List (Ident × String)) : Bool → List Char → List Piece → Prop
  | done (inWord : Bool) : Scans members inWord [] []
  | name {text : List Char} {id : Ident} {name : String} {parts : List Piece} :
    nameAt? members text = some (id, name) →
    Scans members ((name.toList.getLast?.map Text.isWordChar).getD false) (text.drop name.length) parts →
    Scans members false text (.placeholder id :: parts)
  | char {inWord : Bool} {c : Char} {cs : List Char} {parts : List Piece} :
    (inWord = false → nameAt? members (c :: cs) = none) → Scans members (Text.isWordChar c) cs parts →
    Scans members inWord (c :: cs) (.char c :: parts)

section Scans

variable {members : List (Ident × String)}

theorem front_of_nameAt? {text : List Char} {id : Ident} {name : String}
    (h : nameAt? members text = some (id, name)) :
    Text.foldCase (text.take name.length) = Text.foldCase name.toList := by
  have hstands : standsAt text name.toList = true := by simpa using List.find?_some h
  rw [← String.length_toList]
  exact (standsAt_iff.1 hstands).1

section Nonempty

variable (nonempty : ∀ member ∈ members, member.2 ≠ "")
include nonempty

/-- a name takes up one character at least -/
theorem drop_name {c : Char} {cs : List Char} {id : Ident} {name : String}
    (h : nameAt? members (c :: cs) = some (id, name)) : (c :: cs).drop name.length = cs.drop (name.length - 1) := by
  have hname : name ≠ "" := nonempty _ (List.mem_of_find?_eq_some h)
  obtain ⟨n, hn⟩ : ∃ n, name.length = n + 1 :=
    Nat.exists_eq_succ_of_ne_zero fun hzero => hname (String.length_eq_zero_iff.1 hzero)
  rw [hn, List.drop_succ_cons, Nat.add_sub_cancel]

theorem exists_scans (inWord : Bool) (text : List Char) : ∃ parts, Scans members inWord text parts := by
  induction inWord, text using restoreFrom.induct members with
  | case1 inWord => exact ⟨[], .done inWord⟩
  | case2 inWord c cs id name hfound ih =>
    cases inWord with
    | true => cases hfound
    | false =>
      obtain ⟨parts, hparts⟩ := ih
      rw [← drop_name nonempty hfound] at hparts
      exact ⟨.placeholder id :: parts, .name hfound hparts⟩
  | case3 inWord c cs hnone ih =>
    obtain ⟨parts, hparts⟩ := ih
    refine ⟨.char c :: parts, .char (fun hword => ?_) hparts⟩
    subst hword
    exact hnone

/-- **Restoring a text spells its pieces.** -/
theorem Scans.restoreFrom_eq {inWord : Bool} {text : List Char} {parts : List Piece}
    (h : Scans members inWord text parts) : restoreFrom members inWord text = parts.flatMap Piece.spelled := by
  induction h with
  | done inWord => rw [restoreFrom, List.flatMap_nil]
  | @name text id name parts hfound _ ih =>
    cases text with
    | nil =>
      have hempty : Text.foldCase name.toList = [] := by rw [← front_of_nameAt? hfound, List.take_nil]; rfl
      have hname : name = "" := String.toList_eq_nil_iff.1 (List.map_eq_nil_iff.1 hempty)
      exact absurd hname (nonempty _ (List.mem_of_find?_eq_some hfound))
    | cons c cs =>
      rw [drop_name nonempty hfound] at ih
      rw [restoreFrom, if_neg Bool.false_ne_true, hfound, List.flatMap_cons, ← ih]
      rfl
  | @char inWord c cs parts hnone _ ih =>
    have none : (if inWord then none else nameAt? members (c :: cs)) = none := by
      cases inWord with
      | true => rfl
      | false => exact hnone rfl
    rw [restoreFrom, none, List.flatMap_cons, ← ih]
    rfl

end Nonempty

/-- only members are found -/
theorem Scans.mem {inWord : Bool} {text : List Char} {parts : List Piece} (h : Scans members inWord text parts)
    {id : Ident} (hid : .placeholder id ∈ parts) : ∃ name, (id, name) ∈ members := by
  induction h with
  | done => cases hid
  | name hfound _ ih =>
    rcases List.mem_cons.1 hid with heq | hid
    · cases heq
      exact ⟨_, List.mem_of_find?_eq_some hfound⟩
    · exact ih hid
  | char _ _ ih =>
    rcases List.mem_cons.1 hid with heq | hid
    · cases heq
    · exact ih hid

/-! ## Saying what has been found -/

section Said

variable {cast : Cast} (named : ∀ id name, (id, name) ∈ members → cast.nameOf id = some name)
include named

/-- **The pieces say the text again**, up to the case of ASCII letters in the names. -/
theorem Scans.foldCase_said {inWord : Bool} {text : List Char} {parts : List Piece}
    (h : Scans members inWord text parts) : Text.foldCase text = Text.foldCase (parts.flatMap (Piece.said cast)) := by
  induction h with
  | done => rfl
  | @name text id name parts hfound _ ih =>
    rw [List.flatMap_cons, Text.foldCase_append, ← ih, Piece.said, named id name (List.mem_of_find?_eq_some hfound),
      Option.getD_some, ← front_of_nameAt? hfound, ← Text.foldCase_append, List.take_append_drop]
  | char _ _ ih =>
    rw [List.flatMap_cons, Text.foldCase_append, ← ih]
    rfl

/-- **The same pieces are found** in what they say. -/
theorem Scans.respelled {inWord : Bool} {text : List Char} {parts : List Piece} (h : Scans members inWord text parts) :
    Scans members inWord (parts.flatMap (Piece.said cast)) parts := by
  induction h with
  | done inWord => exact .done inWord
  | @name text id name parts hfound htail ih =>
    have same := Scans.foldCase_said named (.name hfound htail)
    have hname : Piece.said cast (.placeholder id) = name.toList := by
      rw [Piece.said, named id name (List.mem_of_find?_eq_some hfound), Option.getD_some]
    rw [List.flatMap_cons, hname] at same ⊢
    refine .name ((nameAt?_congr same members).symm.trans hfound) ?_
    rwa [← String.length_toList, List.drop_left]
  | @char inWord c cs parts hnone htail ih =>
    have same := Scans.foldCase_said named (.char hnone htail)
    exact .char (fun hword => (nameAt?_congr same members).symm.trans (hnone hword)) ih

end Said

end Scans

/-! ## Restoring and filling in -/

theorem mem_byLength {cast : Cast} {member : Ident × String} :
    member ∈ cast.byLength ↔ member ∈ cast.members ∧ member.2 ≠ "" := by
  rw [byLength, List.mem_mergeSort, List.mem_filter]
  simp

theorem nameOf_of_mem {cast : Cast} (once : (cast.members.map (·.1)).Nodup) {id : Ident} {name : String}
    (h : (id, name) ∈ cast.members) : cast.nameOf id = some name := by
  rw [nameOf, find?_of_nodup once h, Option.map_some]

section Restored

variable {cast : Cast} {text : String} {parts : List Piece} (scanned : Scans cast.byLength false text.toList parts)
include scanned

theorem toList_restore : (cast.restore text).toList = parts.flatMap Piece.spelled := by
  have nonempty : ∀ member ∈ cast.byLength, member.2 ≠ "" := fun member hmember => (mem_byLength.1 hmember).2
  rw [restore, String.toList_ofList, scanned.restoreFrom_eq nonempty]

/-- a restored text is read as the pieces for which the text was taken -/
theorem pieces_restore (placeable : ∀ id, .placeholder id ∈ parts → id.Placeable) :
    pieces (cast.restore text).toList = .ok parts := by
  rw [toList_restore scanned]
  exact pieces_spelled placeable

/-- filling in what has been restored says its pieces with the names of the cast -/
theorem substitute_restore_eq (once : (cast.members.map (·.1)).Nodup)
    (placeable : ∀ member ∈ cast.members, member.1.Placeable) :
    cast.substitute (cast.restore text) = (.ok (String.ofList (parts.flatMap (Piece.said cast))), cast) := by
  have found : ∀ id, .placeholder id ∈ parts → ∃ name, (id, name) ∈ cast.members := fun id hid =>
    (scanned.mem hid).imp fun name hmember => (mem_byLength.1 hmember).1
  have read := pieces_restore scanned fun id hid => (found id hid).elim fun name hmember => placeable _ hmember
  rw [substitute, templateOf, parse?, read]
  exact fill_gather fun id hid => (found id hid).imp fun name hmember => nameOf_of_mem once hmember

end Restored

/-- **What has been restored can be filled in**, with no name given out, and what comes of it is restored to the same
text again. It is the text that was restored first, but for the case of ASCII letters. -/
theorem substitute_restore {cast : Cast} (once : (cast.members.map (·.1)).Nodup)
    (placeable : ∀ member ∈ cast.members, member.1.Placeable) (text : String) :
    ∃ again, cast.substitute (cast.restore text) = (.ok again, cast) ∧ cast.restore again = cast.restore text ∧
      Text.same again text = true := by
  have nonempty : ∀ member ∈ cast.byLength, member.2 ≠ "" := fun member hmember => (mem_byLength.1 hmember).2
  have named : ∀ id name, (id, name) ∈ cast.byLength → cast.nameOf id = some name :=
    fun id name hmember => nameOf_of_mem once (mem_byLength.1 hmember).1
  obtain ⟨parts, scanned⟩ := exists_scans nonempty false text.toList
  refine ⟨_, substitute_restore_eq scanned once placeable, ?_, ?_⟩
  · rw [restore, String.toList_ofList, (scanned.respelled named).restoreFrom_eq nonempty, ← toList_restore scanned,
      String.ofList_toList]
  · rw [Text.same, Text.sameFolded, String.toList_ofList, ← scanned.foldCase_said named, beq_self_eq_true]

end Cast

end Playscript
