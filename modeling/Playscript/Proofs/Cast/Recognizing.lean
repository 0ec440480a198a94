/-
Which names a text mentions.

- `Mark`: a part of a text, either a character that is taken as it is or a name in the letters that stand there;
- `Marked`: the parts of a text, told by rules without an order of search. Where a word has begun no name is told. Where
  none has, a name is told if it stands there in whatever ASCII case and the word ends with it, and of several such names
  the longest;
- `Scans.marked`, `Marked.unique`: searching the names by the number of their bytes tells the parts by these rules, and a
  text has its parts in one way only;
- `substitute_restored`: so filling in what has been restored says the text again with the names as the cast has them,
  and every other character as it was.
-/
import Playscript.Proofs.Cast.Reached
import Playscript.Proofs.Cast.Restoring
import Mathlib.Data.String.Basic

namespace Playscript

/-! ## Bytes and letters -/

namespace Text

theorem utf8Size_capitals : ∀ i < 26, (Char.ofNat (65 + i)).toLower.utf8Size = (Char.ofNat (65 + i)).utf8Size := by
  decide

theorem utf8Len_foldCase (cs : List Char) : String.utf8Len (foldCase cs) = String.utf8Len cs := by
  have single : ∀ c : Char, c.toLower.utf8Size = c.utf8Size := by
    intro c
    rcases toLower_eq_or c with hsmall | ⟨i, hi, rfl⟩
    · rw [hsmall]
    · exact utf8Size_capitals i hi
  induction cs with
  | nil => rfl
  | cons c cs ih =>
    have hcons : foldCase (c :: cs) = c.toLower :: foldCase cs := rfl
    rw [hcons, String.utf8Len_cons, String.utf8Len_cons, ih, single]

/-- whether a text ends inside a word -/
def endsInWord (cs : List Char) : Bool := (cs.getLast?.map isWordChar).getD false

theorem endsInWord_congr {a b : List Char} (h : foldCase a = foldCase b) : endsInWord a = endsInWord b := by
  have small : ∀ cs, (foldCase cs).getLast?.map isWordChar = cs.getLast?.map isWordChar := by
    intro cs
    rw [foldCase, List.getLast?_map, Option.map_map]
    exact congrArg (Option.map · _) (funext isWordChar_toLower)
  rw [endsInWord, endsInWord, ← small a, ← small b, h]

end Text

namespace Cast

open Template

/-! ## Names that stand at one place -/

/-- a name that stands at a place is written there in as many letters as it has -/
theorem length_take_of_standsAt {text : List Char} {name : String} (h : standsAt text name.toList = true) :
    (text.take name.length).length = name.length := by
  have hlength := congrArg List.length (standsAt_iff.1 h).1
  rwa [Text.foldCase, Text.foldCase, List.length_map, List.length_map, String.length_toList] at hlength

/-- of two names at one place the one with more bytes has more letters -/
theorem length_le_of_standsAt {text : List Char} {a b : String} (ha : standsAt text a.toList = true)
    (hb : standsAt text b.toList = true) (hbytes : b.utf8ByteSize ≤ a.utf8ByteSize) : b.length ≤ a.length := by
  have bytes : ∀ {name : String}, standsAt text name.toList = true →
      String.utf8Len (text.take name.length) = name.utf8ByteSize := by
    intro name hname
    rw [← Text.utf8Len_foldCase, ← String.length_toList, (standsAt_iff.1 hname).1, Text.utf8Len_foldCase,
      String.utf8Len_toList]
  by_contra hlonger
  -- then `b` covers what `a` covers and something behind it
  have hsplit : text.take b.length = text.take a.length ++ (text.drop a.length).take (b.length - a.length) := by
    rw [← List.take_add]
    congr 1
    omega
  have hsize := congrArg String.utf8Len hsplit
  rw [String.utf8Len_append, bytes ha, bytes hb] at hsize
  have hnothing : (text.drop a.length).take (b.length - a.length) = [] := String.utf8Len_eq_zero.1 (by omega)
  have hlength := congrArg List.length hsplit
  rw [hnothing, List.append_nil, length_take_of_standsAt ha, length_take_of_standsAt hb] at hlength
  omega

/-- the name found is no shorter than any other that stands there -/
theorem longest_of_nameAt? {cast : Cast} {text : List Char} {member : Ident × String}
    (h : nameAt? cast.byLength text = some member) {other : Ident × String} (hother : other ∈ cast.byLength)
    (hstands : standsAt text other.2.toList = true) : other.2.length ≤ member.2.length := by
  obtain ⟨hmember, before, behind, hsplit, hbefore⟩ := List.find?_eq_some_iff_append.1 h
  have sorted : cast.byLength.Pairwise fun a b => decide (b.2.utf8ByteSize ≤ a.2.utf8ByteSize) = true :=
    List.pairwise_mergeSort (by simp only [decide_eq_true_eq]; omega)
      (by simp only [Bool.or_eq_true, decide_eq_true_eq]; omega) _
  rw [hsplit] at hother sorted
  rcases List.mem_append.1 hother with hother | hother
  · exact absurd hstands (by simpa using hbefore other hother)
  · rcases List.mem_cons.1 hother with rfl | hother
    · exact le_rfl
    · have := (List.pairwise_cons.1 (List.pairwise_append.1 sorted).2.1).1 other hother
      exact length_le_of_standsAt hmember hstands (of_decide_eq_true this)

/-! ## Marks -/

/-- a part of a text: a character, or the name of a member in the letters that stand there -/
inductive Mark where
  | plain (c : Char)
  | name (letters : List Char) (member : Ident × String)
  deriving DecidableEq, Repr

namespace Mark

/-- the part as it stands in the text -/
def written : Mark → List Char
  | .plain c => [c]
  | .name letters _ => letters

/-- the part with a name as the cast has it -/
def respelled : Mark → List Char
  | .plain c => [c]
  | .name _ member => member.2.toList

/-- the part with a placeholder for a name -/
def piece : Mark → Piece
  | .plain c => .char c
  | .name _ member => .placeholder member.1

end Mark

/-- the parts of a text; `inWord` tells that a word has begun before it -/
inductive Marked (cast : Cast) : Bool → List Char → List Mark → Prop
  | done (inWord : Bool) : Marked cast inWord [] []
  | name {text : List Char} {member : Ident × String} {marks : List Mark} :
    member ∈ cast.members → standsAt text member.2.toList = true →
    (∀ other ∈ cast.members, standsAt text other.2.toList = true → other.2.length ≤ member.2.length) →
    Marked cast (Text.endsInWord (text.take member.2.length)) (text.drop member.2.length) marks →
    Marked cast false text (.name (text.take member.2.length) member :: marks)
  | plain {inWord : Bool} {c : Char} {text : List Char} {marks : List Mark} :
    (inWord = false → ∀ member ∈ cast.members, standsAt (c :: text) member.2.toList = false) →
    Marked cast (Text.isWordChar c) text marks → Marked cast inWord (c :: text) (.plain c :: marks)

section Marked

variable {cast : Cast} {inWord : Bool} {text : List Char} {marks : List Mark}

/-- the parts are all of the text -/
theorem Marked.written (h : Marked cast inWord text marks) : marks.flatMap Mark.written = text := by
  induction h with
  | done => rfl
  | name _ _ _ _ ih => rw [List.flatMap_cons, ih, Mark.written, List.take_append_drop]
  | plain _ _ ih => rw [List.flatMap_cons, ih, Mark.written, List.singleton_append]

/-- a name is told where it is written, in whatever case -/
theorem Marked.same (h : Marked cast inWord text marks) {letters : List Char} {member : Ident × String}
    (hmark : .name letters member ∈ marks) :
    member ∈ cast.members ∧ Text.foldCase letters = Text.foldCase member.2.toList := by
  induction h with
  | done => cases hmark
  | name hmember hstands _ _ ih =>
    rcases List.mem_cons.1 hmark with heq | hmark
    · cases heq
      have hfront := (standsAt_iff.1 hstands).1
      rw [String.length_toList] at hfront
      exact ⟨hmember, hfront⟩
    · exact ih hmark
  | plain _ _ ih =>
    rcases List.mem_cons.1 hmark with heq | hmark
    · cases heq
    · exact ih hmark

/-- two names at one place, neither longer than the other, are one -/
theorem eq_of_standsAt (apart : (cast.names.map Text.lowercase).Nodup) {member other : Ident × String}
    (hmember : member ∈ cast.members) (hother : other ∈ cast.members) (hlength : other.2.length = member.2.length)
    (hstands : standsAt text member.2.toList = true) (hstands' : standsAt text other.2.toList = true) :
    other = member := by
  have hfront := (standsAt_iff.1 hstands).1
  have hfront' := (standsAt_iff.1 hstands').1
  rw [String.length_toList] at hfront hfront'
  rw [hlength, hfront] at hfront'
  have same : Text.same other.2 member.2 = true := by
    rw [Text.same, Text.sameFolded, hfront', beq_self_eq_true]
  rw [Cast.names, List.map_map] at apart
  exact List.inj_on_of_nodup_map apart hother hmember (Text.lowercase_congr same)

/-- **A text has its parts in one way only**, if no two names are one but for the case of letters. -/
theorem Marked.unique (nonempty : ∀ member ∈ cast.members, member.2 ≠ "")
    (apart : (cast.names.map Text.lowercase).Nodup) (h : Marked cast inWord text marks) {others : List Mark}
    (h' : Marked cast inWord text others) : others = marks := by
  have nowhere : ∀ member ∈ cast.members, standsAt [] member.2.toList = false := by
    intro member hmember
    refine Bool.eq_false_iff.2 fun hstands => nonempty member hmember ?_
    have hlength := length_take_of_standsAt hstands
    rw [List.take_nil, List.length_nil] at hlength
    exact String.length_eq_zero_iff.1 hlength.symm
  induction h generalizing others with
  | done =>
    cases h' with
    | done => rfl
    | name hmember hstands => exact absurd hstands (by rw [nowhere _ hmember]; exact Bool.false_ne_true)
  | @name text member marks hmember hstands hlongest _ ih =>
    cases h' with
    | done => exact absurd hstands (by rw [nowhere _ hmember]; exact Bool.false_ne_true)
    | @name _ other others hother hstands' hlongest' hmarks =>
      have hlength := le_antisymm (hlongest other hother hstands') (hlongest' member hmember hstands)
      cases eq_of_standsAt apart hmember hother hlength hstands hstands'
      rw [ih hmarks]
    | plain hnone => exact absurd hstands (by rw [hnone rfl member hmember]; exact Bool.false_ne_true)
  | plain hnone _ ih =>
    cases h' with
    | name hmember hstands => exact absurd hstands (by rw [hnone rfl _ hmember]; exact Bool.false_ne_true)
    | plain _ hmarks => rw [ih hmarks]

/-- **The search tells the parts of a text.** -/
theorem Scans.marked (nonempty : ∀ member ∈ cast.members, member.2 ≠ "") {parts : List Piece}
    (h : Scans cast.byLength inWord text parts) :
    ∃ marks, Marked cast inWord text marks ∧ marks.map Mark.piece = parts := by
  have listed : ∀ {member}, member ∈ cast.byLength ↔ member ∈ cast.members := by
    intro member
    rw [mem_byLength, and_iff_left_of_imp (nonempty member)]
  induction h with
  | done inWord => exact ⟨[], .done inWord, rfl⟩
  | @name text id name parts hfound _ ih =>
    obtain ⟨marks, hmarks, rfl⟩ := ih
    have hmember := List.mem_of_find?_eq_some hfound
    have hstands : standsAt text name.toList = true := by simpa using List.find?_some hfound
    refine ⟨.name (text.take name.length) (id, name) :: marks, ?_, rfl⟩
    refine .name (listed.1 hmember) hstands (fun other hother => longest_of_nameAt? hfound (listed.2 hother)) ?_
    rwa [Text.endsInWord_congr (front_of_nameAt? hfound)]
  | @char inWord c text parts hnone _ ih =>
    obtain ⟨marks, hmarks, rfl⟩ := ih
    refine ⟨.plain c :: marks, .plain (fun hword member hmember => ?_) hmarks, rfl⟩
    have := List.find?_eq_none.1 (hnone hword) member (listed.2 hmember)
    simpa using this

end Marked

/-! ## Restoring and filling in -/

/-- a part comes back with the name that the cast has -/
theorem said_piece {cast : Cast} (once : (cast.members.map (·.1)).Nodup) {mark : Mark}
    (h : ∀ letters member, mark = .name letters member → member ∈ cast.members) :
    Piece.said cast mark.piece = mark.respelled := by
  cases mark with
  | plain c => rfl
  | name letters member =>
    rw [Mark.piece, Piece.said, nameOf_of_mem once (h letters member rfl), Option.getD_some]
    rfl

/-- **Filling in what has been restored says the text again.** Let a cast have come about in any way, its identifiers
such as can stand between braces and no name of it empty. A text has its parts in one way. Filling in what has been
restored from the text gives out no name and says these parts: every character as it stands in the text and every name as
the cast has it, which differs from what stands in the text in the case of ASCII letters only. Where the names stand in
the text as the cast has them, the text itself comes back. -/
theorem substitute_restored {cast : Cast} (reached : cast.Reached)
    (placeable : ∀ member ∈ cast.members, member.1.Placeable) (nonempty : ∀ member ∈ cast.members, member.2 ≠ "")
    (text : String) :
    ∃ marks, (∀ others, Marked cast false text.toList others ↔ others = marks) ∧
      marks.flatMap Mark.written = text.toList ∧
      cast.substitute (cast.restore text) = (.ok (String.ofList (marks.flatMap Mark.respelled)), cast) ∧
      (∀ letters member, .name letters member ∈ marks →
        member ∈ cast.members ∧ Text.foldCase letters = Text.foldCase member.2.toList) ∧
      ((∀ letters member, .name letters member ∈ marks → letters = member.2.toList) →
        cast.substitute (cast.restore text) = (.ok text, cast)) := by
  obtain ⟨names, drawn⟩ := drawn_of_reached reached
  obtain ⟨parts, scanned⟩ := exists_scans (fun _ hmember => (mem_byLength.1 hmember).2) false text.toList
  obtain ⟨marks, marked, rfl⟩ := scanned.marked nonempty
  have filled : cast.substitute (cast.restore text) = (.ok (String.ofList (marks.flatMap Mark.respelled)), cast) := by
    rw [substitute_restore_eq scanned drawn.once placeable, List.flatMap_map]
    have said : ∀ mark ∈ marks, Piece.said cast mark.piece = mark.respelled := fun mark hmark =>
      said_piece drawn.once fun letters member heq => (marked.same (heq ▸ hmark)).1
    rw [List.flatMap_congr said]
  refine ⟨marks, fun others => ⟨marked.unique nonempty drawn.apart, fun heq => heq ▸ marked⟩, marked.written, filled,
    fun letters member hmark => marked.same hmark, fun spelled => ?_⟩
  have unchanged : ∀ mark ∈ marks, mark.respelled = mark.written := by
    intro mark hmark
    cases mark with
    | plain c => rfl
    | name letters member => exact (spelled letters member hmark).symm
  rw [filled, List.flatMap_congr unchanged, marked.written, String.ofList_toList]

/-- the cast of a play with these two -/
def couple : Cast := ⟨[], [(⟨"lady_macbeth"⟩, "Lady Macbeth"), (⟨"macbeth"⟩, "Macbeth")]⟩

/-- one name within another, braces around it and capitals where the cast has none -/
theorem substitute_restored_couple : recover ["Lady Macbeth", "Macbeth"] = .ok couple ∧
    couple.substitute (couple.restore "\x7bLADY macbeth\x7d") = (.ok "\x7bLady Macbeth\x7d", couple) := by
  have recovered : recover ["Lady Macbeth", "Macbeth"] = .ok couple := by decide
  have placeable : ∀ member ∈ couple.members, member.1.Placeable := by
    intro member hmember
    rcases List.mem_pair.1 hmember with rfl | rfl <;>
      exact ⟨by decide, by decide, fun c hc => Bool.eq_false_iff.2 (List.any_eq_false.1 (by decide) c hc)⟩
  have nonempty : ∀ member ∈ couple.members, member.2 ≠ "" := by decide
  obtain ⟨marks, only, -, filled, -⟩ :=
    substitute_restored (.recovered recovered) placeable nonempty "\x7bLADY macbeth\x7d"
  have letters : "\x7bLADY macbeth\x7d".toList = '\x7b' :: ("LADY macbeth".toList ++ ['\x7d']) := by decide
  -- both names could stand behind the blank, but a word has begun
  have brace : Marked couple true ['\x7d'] [.plain '\x7d'] := .plain nofun (.done false)
  have lady : Marked couple false ("LADY macbeth".toList ++ ['\x7d'])
      [.name "LADY macbeth".toList (⟨"lady_macbeth"⟩, "Lady Macbeth"), .plain '\x7d'] := by
    refine @Marked.name couple _ (⟨"lady_macbeth"⟩, "Lady Macbeth") _ List.mem_cons_self ?_ ?_ brace
    · decide
    · decide
  have whole : Marked couple false "\x7bLADY macbeth\x7d".toList
      [.plain '\x7b', .name "LADY macbeth".toList (⟨"lady_macbeth"⟩, "Lady Macbeth"), .plain '\x7d'] := by
    rw [letters]
    exact .plain (by decide) lady
  rw [filled, ← (only _).1 whole]
  exact ⟨recovered, rfl⟩

end Cast

end Playscript
