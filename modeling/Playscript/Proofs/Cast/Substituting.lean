/-
Filling in a template and restoring it.

- `Template.Spells`, `spells_of_pieces`: a template spells its pieces one after the other, with blanks around the
  identifiers between braces, or without any if it is `Unpadded`;
- `fill_said`: filling in says the segments of a template with the names that their characters have in the end;
- `Text.wordRuns`: the words of running text;
- `run_of_standsAt`: where a name stands, the first word is that of the name;
- `scans_literal`, `scans_segments`: hence no name is found in a literal that shares no word with any name, and where a
  name has been put no other is found, if no two names have the same first word;
- `restore_substitute`: so restoring what a template has become gives the template back.
-/
import Playscript.Proofs.Cast.Grammar
import Playscript.Proofs.Cast.Reached
import Playscript.Proofs.Cast.Restoring
import Playscript.Proofs.Lexicon.Standard
import Playscript.Proofs.Outcome
import Playscript.Proofs.Text.Trimming
import Mathlib.Data.List.Chain

namespace Playscript

/-! ## Words of running text -/

namespace Text

/-- the longest runs of word characters; `inWord` tells that one has begun before the text, which does not count -/
def wordRuns (inWord : Bool) : List Char → List (List Char)
  | [] => []
  | c :: cs =>
    if isWordChar c && !inWord then (c :: cs).takeWhile isWordChar :: wordRuns true cs
    else wordRuns (isWordChar c) cs

/-- the words of running text -/
def runningWords (text : String) : List (List Char) := wordRuns false text.toList

theorem mem_wordRuns_tail {inWord : Bool} {c : Char} {cs word : List Char} (h : word ∈ wordRuns (isWordChar c) cs) :
    word ∈ wordRuns inWord (c :: cs) := by
  unfold wordRuns
  split
  · rename_i hbegins
    rw [(Bool.and_eq_true_iff.1 hbegins).1] at h
    exact List.mem_cons_of_mem _ h
  · exact h

theorem takeWhile_mem_wordRuns {c : Char} (h : isWordChar c = true) (cs : List Char) :
    (c :: cs).takeWhile isWordChar ∈ wordRuns false (c :: cs) := by
  rw [wordRuns, h]
  exact List.mem_cons_self

theorem foldCase_takeWhile (cs : List Char) : foldCase (cs.takeWhile isWordChar) = (foldCase cs).takeWhile isWordChar := by
  have same : isWordChar ∘ Char.toLower = isWordChar := funext isWordChar_toLower
  rw [foldCase, foldCase, List.takeWhile_map, same]

/-- a run ends where the text behind does not go on with it -/
theorem takeWhile_append_of_head {p : Char → Bool} {before behind : List Char}
    (h : ∀ c, behind.head? = some c → p c = false) : (before ++ behind).takeWhile p = before.takeWhile p := by
  induction before with
  | nil =>
    cases behind with
    | nil => rfl
    | cons c cs => rw [List.nil_append, List.takeWhile_cons_of_neg (by simp [h c rfl]), List.takeWhile_nil]
  | cons c before ih => rw [List.cons_append, List.takeWhile_cons, List.takeWhile_cons, ih]

/-- a run ends before the last character if that is not part of it -/
theorem takeWhile_append_of_getLast {p : Char → Bool} {before behind : List Char} {last : Char}
    (hlast : before.getLast? = some last) (h : p last = false) : (before ++ behind).takeWhile p = before.takeWhile p := by
  induction before with
  | nil => cases hlast
  | cons c before ih =>
    rw [List.cons_append, List.takeWhile_cons, List.takeWhile_cons]
    cases before with
    | nil =>
      rw [List.getLast?_singleton, Option.some.injEq] at hlast
      rw [hlast, h]
      rfl
    | cons d before => rw [ih hlast]

end Text

namespace Template

/-! ## How templates are spelled -/

/-- a text spells pieces one after the other; between braces, next to an identifier, there may be a padding -/
inductive Spells (padding : List Char → Prop) : List Char → List Piece → Prop
  | done : Spells padding [] []
  | char {text : List Char} {parts : List Piece} (c : Char) : Spells padding text parts →
    Spells padding (escapeBrace c ++ text) (.char c :: parts)
  | placeholder {before behind text : List Char} {id : Ident} {parts : List Piece} : padding before → padding behind →
    Spells padding text parts →
    Spells padding ('\x7b' :: (before ++ id.text.toList ++ behind) ++ '\x7d' :: text) (.placeholder id :: parts)

/-- a template that pads no placeholder -/
def Unpadded (text : String) : Prop := ∃ parts, pieces text.toList = .ok parts ∧ Spells (· = []) text.toList parts

theorem spells_spelled (parts : List Piece) : Spells (· = []) (parts.flatMap Piece.spelled) parts := by
  induction parts with
  | nil => exact .done
  | cons part parts ih =>
    rw [List.flatMap_cons]
    cases part with
    | char c => exact .char c ih
    | placeholder id =>
      have spelled := @Spells.placeholder (· = []) [] [] _ id _ rfl rfl ih
      rw [List.nil_append, List.append_nil] at spelled
      rwa [Piece.spelled, placeholderText, List.append_assoc]

theorem Spells.eq_spelled {text : List Char} {parts : List Piece} (h : Spells (· = []) text parts) :
    text = parts.flatMap Piece.spelled := by
  induction h with
  | done => rfl
  | char c _ ih => rw [List.flatMap_cons, ← ih, Piece.spelled]
  | placeholder hbefore hbehind _ ih =>
    rw [List.flatMap_cons, ← ih, hbefore, hbehind, List.nil_append, List.append_nil, Piece.spelled, placeholderText,
      List.append_assoc]
    rfl

/-- **A template spells its pieces**, with nothing but blanks for a padding. -/
theorem spells_of_pieces {text : List Char} {parts : List Piece} (h : pieces text = .ok parts) :
    Spells Text.Blank text parts := by
  obtain ⟨items, rfl, hitems⟩ := exists_items h
  clear h
  induction hitems with
  | nil => exact .done
  | @cons item piece items parts hitem _ ih =>
    rw [List.flatten_cons]
    cases piece with
    | char c => exact hitem.eq_escapeBrace ▸ .char c ih
    | placeholder id =>
      cases hitem with
      | @braced content =>
        obtain ⟨before, behind, hbefore, hbehind, hcontent⟩ := Text.exists_padding content
        have spelled := @Spells.placeholder Text.Blank before behind _ ⟨String.ofList (Text.trimChars content)⟩ _
          hbefore hbehind ih
        rw [String.toList_ofList, ← hcontent] at spelled
        rwa [List.cons_append, List.append_assoc, List.singleton_append]

namespace Segment

/-- a segment with the names that a cast has for its characters -/
def said (cast : Cast) (segment : Segment) : List Char := segment.pieces.flatMap (Piece.said cast)

/-- what stands next to a placeholder is neither a placeholder nor part of a word -/
def Apart : Segment → Segment → Prop
  | .literal text, .placeholder _ => ∀ c ∈ text.toList.getLast?, Text.isWordChar c = false
  | .placeholder _, .literal text => ∀ c ∈ text.toList.head?, Text.isWordChar c = false
  | .placeholder _, .placeholder _ => False
  | .literal _, .literal _ => True

-- named, since the instance for a finite type goes through all characters instead
instance : DecidableRel Apart
  | .literal text, .placeholder _ => Option.decidableForallMem text.toList.getLast?
  | .placeholder _, .literal text => Option.decidableForallMem text.toList.head?
  | .placeholder _, .placeholder _ => inferInstanceAs (Decidable False)
  | .literal _, .literal _ => inferInstanceAs (Decidable True)

theorem said_literal (cast : Cast) (text : String) : said cast (.literal text) = text.toList := by
  rw [said, pieces, List.flatMap_map]
  exact List.flatMap_singleton' text.toList

theorem said_placeholder {cast : Cast} {id : Ident} {name : String} (h : cast.nameOf id = some name) :
    said cast (.placeholder id) = name.toList := by
  rw [said, pieces, List.flatMap_singleton, Piece.said, h, Option.getD_some]

end Segment

end Template

namespace Cast

open Template

/-! ## What a template becomes -/

/-- **Filling in says the segments one after the other**, with the names that the characters have in the end. -/
theorem fill_said {cast next : Cast} {segments : List Segment} {said : String}
    (h : cast.fill segments = (.ok said, next)) :
    said.toList = segments.flatMap (Segment.said next) ∧
      ∀ id, .placeholder id ∈ segments → ∃ name, next.nameOf id = some name := by
  induction segments generalizing cast said with
  | nil =>
    cases h
    exact ⟨rfl, fun _ hnone => absurd hnone List.not_mem_nil⟩
  | cons segment segments ih =>
    cases segment with
    | literal text =>
      rw [fill] at h
      rcases hrest : cast.fill segments with ⟨cause | rest, last⟩ <;> rw [hrest] at h <;> cases h
      obtain ⟨hsaid, hnamed⟩ := ih hrest
      constructor
      · rw [String.toList_append, hsaid, List.flatMap_cons, Segment.said_literal]
      · intro id hid
        rcases List.mem_cons.1 hid with heq | hid
        · cases heq
        · exact hnamed id hid
    | placeholder id =>
      rw [fill] at h
      cases ha : cast.allocate id with
      | error cause => rw [ha] at h; cases h
      | ok answer =>
        obtain ⟨name, middle⟩ := answer
        rw [ha] at h
        dsimp only at h
        rcases hrest : middle.fill segments with ⟨cause | rest, last⟩ <;> rw [hrest] at h <;> cases h
        obtain ⟨hsaid, hnamed⟩ := ih hrest
        have hname : last.nameOf id = some name :=
          (congrArg Prod.snd hrest ▸ fill_grows middle segments).nameOf (nameOf_of_allocate ha)
        constructor
        · rw [String.toList_append, hsaid, List.flatMap_cons, Segment.said_placeholder hname]
        · intro other hother
          rcases List.mem_cons.1 hother with heq | hother
          · cases heq
            exact ⟨name, hname⟩
          · exact hnamed other hother

/-! ## What is found in it -/

/-- the word with which a name begins -/
def firstRun (name : String) : List Char := name.toList.takeWhile Text.isWordChar

/-- every name begins with a word, and no two with the same -/
structure ToldApart (members : List (Ident × String)) : Prop where
  begins : ∀ member ∈ members, firstRun member.2 ≠ []
  apart : ∀ member ∈ members, ∀ other ∈ members,
    Text.foldCase (firstRun other.2) = Text.foldCase (firstRun member.2) → other = member

/-- **Where a name stands, the first word is that of the name**, in whatever case. -/
theorem run_of_standsAt {text : List Char} {name : String} (h : standsAt text name.toList = true) :
    Text.foldCase (text.takeWhile Text.isWordChar) = Text.foldCase (firstRun name) := by
  obtain ⟨hfront, hbehind⟩ := standsAt_iff.1 h
  have run : text.takeWhile Text.isWordChar = (text.take name.toList.length).takeWhile Text.isWordChar := by
    conv_lhs => rw [← List.take_append_drop name.toList.length text]
    exact Text.takeWhile_append_of_head hbehind
  rw [run, firstRun, Text.foldCase_takeWhile, hfront, ← Text.foldCase_takeWhile]

section Told

variable {members : List (Ident × String)} (told : ToldApart members)

/-- no name stands where the first word is none of theirs -/
theorem nameAt?_eq_none {text : List Char}
    (h : ∀ member ∈ members, Text.foldCase (text.takeWhile Text.isWordChar) ≠ Text.foldCase (firstRun member.2)) :
    nameAt? members text = none := by
  rw [nameAt?, List.find?_eq_none]
  intro member hmember hstands
  exact h member hmember (run_of_standsAt hstands)

include told

/-- a name that stands at a place is the one found -/
theorem nameAt?_eq_some {text : List Char} {member : Ident × String} (hmember : member ∈ members)
    (hstands : standsAt text member.2.toList = true) : nameAt? members text = some member := by
  unfold nameAt?
  cases hfound : members.find? fun member => standsAt text member.2.toList with
  | none => exact absurd hstands (List.find?_eq_none.1 hfound member hmember)
  | some other =>
    have hother : standsAt text other.2.toList = true := by simpa using List.find?_some hfound
    have same := (run_of_standsAt hother).symm.trans (run_of_standsAt hstands)
    rw [told.apart member hmember other (List.mem_of_find?_eq_some hfound) same]

/-- **In a literal that shares no word with a name no name is found**, if it does not end within a word. -/
theorem scans_literal {inWord : Bool} {letters behind : List Char} {parts : List Piece}
    (unlike : ∀ word ∈ Text.wordRuns inWord letters, ∀ member ∈ members,
      Text.foldCase word ≠ Text.foldCase (firstRun member.2))
    (ends : ∀ last, letters.getLast? = some last → Text.isWordChar last = true → behind = [])
    (h : Scans members ((letters.getLast?.map Text.isWordChar).getD inWord) behind parts) :
    Scans members inWord (letters ++ behind) (letters.map .char ++ parts) := by
  induction letters generalizing inWord with
  | nil => exact h
  | cons c letters ih =>
    refine .char (fun hword => nameAt?_eq_none fun member hmember => ?_) (ih ?_ ?_ ?_)
    · subst hword
      have run : (c :: letters ++ behind).takeWhile Text.isWordChar = (c :: letters).takeWhile Text.isWordChar := by
        obtain ⟨last, hlast⟩ : ∃ last, (c :: letters).getLast? = some last := ⟨_, List.getLast?_cons⟩
        cases hend : Text.isWordChar last with
        | false => exact Text.takeWhile_append_of_getLast hlast hend
        | true => rw [ends last hlast hend, List.append_nil]
      show Text.foldCase ((c :: letters ++ behind).takeWhile Text.isWordChar) ≠ _
      rw [run]
      by_cases hc : Text.isWordChar c = true
      · exact unlike _ (Text.takeWhile_mem_wordRuns hc letters) member hmember
      · rw [List.takeWhile_cons_of_neg hc]
        intro heq
        exact told.begins member hmember (List.map_eq_nil_iff.1 heq.symm)
    · exact fun word hword => unlike word (Text.mem_wordRuns_tail hword)
    · intro last hlast
      refine ends last ?_
      rw [List.getLast?_cons, hlast, Option.getD_some]
    · rw [List.getLast?_cons] at h
      cases hlast : letters.getLast? with
      | none => rwa [hlast] at h
      | some last => rwa [hlast] at h

/-- whether a segment may follow where a word has begun: no placeholder may, nor what would go on with the word -/
def MayFollow (inWord : Bool) : Segment → Prop
  | .literal text => inWord = true → ∀ c ∈ text.toList.head?, Text.isWordChar c = false
  | .placeholder _ => inWord = false

omit told in
theorem wordRuns_of_mayFollow {inWord : Bool} {text : String} (h : MayFollow inWord (.literal text)) :
    Text.wordRuns inWord text.toList = Text.runningWords text := by
  unfold Text.runningWords
  cases inWord with
  | false => rfl
  | true =>
    cases hletters : text.toList with
    | nil => rfl
    | cons c letters =>
      have hc : Text.isWordChar c = false := h rfl c (by rw [hletters]; rfl)
      rw [Text.wordRuns, Text.wordRuns, hc]
      rfl

omit told in
theorem mayFollow_of_apart {id : Ident} {segment : Segment} (h : Segment.Apart (.placeholder id) segment)
    (inWord : Bool) : MayFollow inWord segment := by
  cases segment with
  | literal text => exact fun _ => h
  | placeholder id => exact h.elim

omit told in
/-- **Where a name has been put it stands**: what is said behind it does not go on with a word. -/
theorem standsAt_said {next : Cast} {segments : List Segment}
    (nonempty : ∀ text, .literal text ∈ segments → text.toList ≠ []) {id : Ident}
    (beside : ∀ segment ∈ segments.head?, Segment.Apart (.placeholder id) segment) (name : List Char) :
    standsAt (name ++ segments.flatMap (Segment.said next)) name = true := by
  refine standsAt_iff.2 ⟨by rw [List.take_left], fun c hc => ?_⟩
  rw [List.drop_left] at hc
  cases segments with
  | nil => cases hc
  | cons segment segments =>
    have apart := beside segment rfl
    cases segment with
    | placeholder id => exact apart.elim
    | literal text =>
      obtain ⟨first, more, hletters⟩ := List.exists_cons_of_ne_nil (nonempty text List.mem_cons_self)
      rw [List.flatMap_cons, Segment.said_literal, hletters, List.cons_append] at hc
      exact apart c (by rw [hletters]; exact hc)

/-- **In what a template becomes, the names that were put there are found**, and nothing else. -/
theorem scans_segments {next : Cast} {segments : List Segment} (gathered : Gathered segments)
    (apart : segments.IsChain Segment.Apart)
    (unlike : ∀ text, .literal text ∈ segments → ∀ word ∈ Text.runningWords text, ∀ member ∈ members,
      Text.foldCase word ≠ Text.foldCase (firstRun member.2))
    (named : ∀ id, .placeholder id ∈ segments → ∃ name, (id, name) ∈ members ∧ next.nameOf id = some name)
    {inWord : Bool} (follows : ∀ segment ∈ segments.head?, MayFollow inWord segment) :
    Scans members inWord (segments.flatMap (Segment.said next)) (segments.flatMap Segment.pieces) := by
  induction segments generalizing inWord with
  | nil => exact .done inWord
  | cons segment segments ih =>
    obtain ⟨nonempty, alternate⟩ := gathered
    rw [List.isChain_cons] at apart alternate
    obtain ⟨beside, apart⟩ := apart
    obtain ⟨other, alternate⟩ := alternate
    have nonempty' : ∀ text, .literal text ∈ segments → text.toList ≠ [] := fun text htext =>
      nonempty text (List.mem_cons_of_mem _ htext)
    have rest := @ih ⟨nonempty', alternate⟩ apart (fun text htext => unlike text (List.mem_cons_of_mem _ htext))
      (fun id hid => named id (List.mem_cons_of_mem _ hid))
    have here := follows segment rfl
    rw [List.flatMap_cons, List.flatMap_cons]
    cases segment with
    | literal text =>
      obtain ⟨last, hlast⟩ : ∃ last, text.toList.getLast? = some last :=
        ⟨_, List.getLast?_eq_some_getLast (nonempty text List.mem_cons_self)⟩
      -- only a placeholder can stand behind, and then the literal does not end within a word
      have behind : ∀ next ∈ segments.head?, Text.isWordChar last = false ∧ MayFollow (Text.isWordChar last) next := by
        intro next hnext
        have hbeside := beside next hnext
        cases next with
        | literal text' => exact absurd rfl (other _ hnext text text' rfl)
        | placeholder id => exact ⟨hbeside last hlast, hbeside last hlast⟩
      rw [Segment.said_literal]
      refine scans_literal told ?_ ?_ (rest fun next hnext => ?_)
      · rw [wordRuns_of_mayFollow here]
        exact unlike text List.mem_cons_self
      · intro last' hlast' hword
        cases hlast.symm.trans hlast'
        cases segments with
        | nil => rfl
        | cons next segments => exact absurd hword (by rw [(behind next rfl).1]; exact Bool.false_ne_true)
      · rw [hlast]
        exact (behind next hnext).2
    | placeholder id =>
      obtain ⟨name, hmember, hname⟩ := named id List.mem_cons_self
      have stands : standsAt (name.toList ++ segments.flatMap (Segment.said next)) name.toList = true :=
        standsAt_said nonempty' beside name.toList
      rw [show inWord = false from here, Segment.said_placeholder hname]
      refine .name (nameAt?_eq_some told hmember stands) ?_
      rw [← String.length_toList, List.drop_left]
      exact rest fun segment hsegment => mayFollow_of_apart (beside segment hsegment) _

end Told

/-! ## The standard names -/

open Lexicon

theorem standard_firstRun : ∀ name ∈ standardCast,
    firstRun name = (Words.initial name).toList ∧ firstRun name ≠ [] := by decide

theorem toldApart_of_drawn {cast : Cast} (h : cast.Drawn standardCast) : ToldApart cast.byLength := by
  have listed : ∀ member ∈ cast.byLength, member ∈ cast.members ∧ member.2 ∈ standardCast := by
    intro member hmember
    have hmem := (mem_byLength.1 hmember).1
    exact ⟨hmem, h.named _ (List.mem_map_of_mem hmem)⟩
  refine ⟨fun member hmember => (standard_firstRun _ (listed member hmember).2).2, ?_⟩
  intro member hmember other hother heq
  obtain ⟨hmem, hname⟩ := listed member hmember
  obtain ⟨hmem', hname'⟩ := listed other hother
  have same : Text.same (Words.initial member.2) (Words.initial other.2) = true := by
    rw [(standard_firstRun _ hname).1, (standard_firstRun _ hname').1] at heq
    rw [Text.same, Text.sameFolded, heq, beq_self_eq_true]
  have names : other.2 = member.2 := by
    by_contra hne
    have hapart := standard_names.apart _ hname _ hname' hne
    rw [same] at hapart
    cases hapart
  have apart := h.apart
  rw [Cast.names, List.map_map] at apart
  exact List.inj_on_of_nodup_map apart hmem' hmem (congrArg Text.lowercase names)

theorem firstRun_mem_runningWords {name : String} (h : firstRun name ≠ []) : firstRun name ∈ Text.runningWords name := by
  unfold firstRun Text.runningWords at *
  cases hletters : name.toList with
  | nil =>
    rw [hletters] at h
    exact absurd rfl h
  | cons c letters =>
    rw [hletters] at h
    refine Text.takeWhile_mem_wordRuns ?_ letters
    by_contra hc
    rw [List.takeWhile_cons_of_neg hc] at h
    exact h rfl

/-- **Restoring what was substituted gives the template back.** Take a cast that draws on the standard names, and a text
that it fills in. Let there be no padding in the text, let what stands next to a placeholder be neither a placeholder nor
part of a word, and let no word of a literal be, in whatever ASCII case, a word of a name that the cast has in the end.
Then restoring what the text has become gives the text. -/
theorem restore_substitute {cast next : Cast} (hcast : (Cast.ofLexicon standard).Grows cast) {text said : String}
    (hsubstitute : cast.substitute text = (.ok said, next)) {segments : List Segment}
    (hsegments : Template.parse? text = .ok segments) (unpadded : Template.Unpadded text)
    (apart : segments.IsChain Segment.Apart)
    (unlike : ∀ literal, .literal literal ∈ segments → ∀ word ∈ Text.runningWords literal, ∀ name ∈ next.names,
      ∀ other ∈ Text.runningWords name, Text.foldCase word ≠ Text.foldCase other) :
    next.restore said = text := by
  have grown := substitute_grows cast text
  rw [hsubstitute] at grown
  have drawn : next.Drawn standardCast := drawn_of_grows (hcast.trans grown)
  have told := toldApart_of_drawn drawn
  rw [substitute, templateOf, hsegments] at hsubstitute
  obtain ⟨hsaid, hnamed⟩ := fill_said hsubstitute
  obtain ⟨parts, hparts, hspells⟩ := unpadded
  obtain rfl : gather parts = segments := by
    rw [parse?, hparts] at hsegments
    exact Except.ok.inj hsegments
  have scanned : Scans next.byLength false said.toList parts := by
    rw [hsaid]
    conv_rhs => rw [← pieces_gather parts]
    refine scans_segments told (gathered_gather parts) apart ?_ ?_ ?_
    · intro literal hliteral word hword member hmember
      have hname : member.2 ∈ next.names := List.mem_map_of_mem (mem_byLength.1 hmember).1
      exact unlike literal hliteral word hword member.2 hname _ (firstRun_mem_runningWords (told.begins member hmember))
    · intro id hid
      obtain ⟨name, hname⟩ := hnamed id hid
      have hmember := nameOf_eq_some hname
      have begins := (standard_firstRun name (drawn.named name (List.mem_map_of_mem hmember))).2
      refine ⟨name, mem_byLength.2 ⟨hmember, fun hempty => begins ?_⟩, hname⟩
      rw [show name = "" from hempty]
      rfl
    · intro segment _
      cases segment with
      | literal text => exact fun opens => absurd opens Bool.false_ne_true
      | placeholder id => rfl
  exact String.toList_injective ((toList_restore scanned).trans hspells.eq_spelled.symm)

/-- doubled braces, an apostrophe behind a name, a name that was there before, and a word that only begins like one -/
theorem restore_substitute_possessive :
    let cast : Cast := ⟨standardCast.drop 1, [(⟨"guest"⟩, "Romeo")]⟩
    let text := "\x7bguest\x7d's \x7b\x7bold\x7d\x7d friend, Julietta, is \x7bhost\x7d."
    let said := "Romeo's \x7bold\x7d friend, Julietta, is Juliet."
    (Cast.ofLexicon standard).Grows cast ∧
      ∃ next, cast.substitute text = (.ok said, next) ∧ next.restore said = text := by
  intro cast text said
  have named : (Cast.ofLexicon standard).allocate ⟨"guest"⟩ = .ok ("Romeo", cast) := rfl
  have grown := (Grows.refl _).allocate named
  let next : Cast := ⟨standardCast.drop 2, [(⟨"guest"⟩, "Romeo"), (⟨"host"⟩, "Juliet")]⟩
  let segments : List Segment :=
    [.placeholder ⟨"guest"⟩, .literal "'s \x7bold\x7d friend, Julietta, is ", .placeholder ⟨"host"⟩, .literal "."]
  have substituted : cast.substitute text = (.ok said, next) := by decide +kernel
  have hsegments : Template.parse? text = .ok segments := by decide +kernel
  have unpadded : Template.Unpadded text := by
    refine ⟨segments.flatMap Segment.pieces, by decide +kernel, ?_⟩
    have spelled : text.toList = (segments.flatMap Segment.pieces).flatMap Piece.spelled := by decide
    rw [spelled]
    exact spells_spelled _
  have apart : segments.IsChain Segment.Apart := by decide
  have unlike : ∀ segment ∈ segments, ∀ word ∈ Text.wordRuns false (match segment with
      | .literal literal => literal.toList
      | .placeholder _ => []), ∀ name ∈ next.names,
      ∀ other ∈ Text.runningWords name, Text.foldCase word ≠ Text.foldCase other := by decide
  refine ⟨grown, next, substituted, restore_substitute grown substituted hsegments unpadded apart ?_⟩
  exact fun literal hliteral => unlike (.literal literal) hliteral

end Cast

end Playscript
