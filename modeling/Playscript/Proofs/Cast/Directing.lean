/-
Directions to the cast of a play.

- `Separable`: a name that separators are no part of, so that it is listed by its words (`listable_of_separable`);
- `Recovered.heardAs`: in a cast of such names each is heard as its character, however it begins or ends others;
- `chars_flatMap_ofPiece`: words keep what is not blank in a text, so `Cased.length_chars` tells how much has been read;
- `closes_of_parse_exit`: and a name that ends with a mark or a bracket is not read back, which is dropped;
- `parse_compose_iff_closes`: directions come back, bare or between brackets, exactly if no name ends so.
-/
import Playscript.Proofs.Cast.Casing
import Playscript.Proofs.Conversion.Composing
import Playscript.Proofs.Sentence.Respelling

namespace Playscript

/-! ## Names in lists -/

/-- a name with words, none of them "and", and without commas -/
structure Separable (name : String) : Prop where
  nonempty : Text.words name ≠ []
  comma : ',' ∉ name.toList
  conjunction : ∀ word ∈ Text.words name, Text.same word "and" = false

namespace Words

theorem ofPiece_of_not_mem {piece : List Char} (h : ',' ∉ piece) : ofPiece piece = [String.ofList piece] :=
  if_neg fun hlast => h (List.mem_of_getLast? hlast)

/-- the words of a text without commas are all it is read for -/
theorem ofBody_of_not_mem {text : String} (h : ',' ∉ text.toList) : ofBody text = Text.words text := by
  have pieces : ∀ piece ∈ Text.splitBlank text.toList, ofPiece piece = [String.ofList piece] := fun piece hpiece =>
    ofPiece_of_not_mem fun hcomma => h ((Text.mem_splitBlank hpiece).2.2 _ hcomma)
  rw [ofBody, List.flatMap_congr pieces, Text.words]
  exact List.flatMap_pure_eq_map _ _

/-- a comma behind a text without commas is a word of its own -/
theorem flatMap_ofPiece_comma {cs : List Char} (h : ',' ∉ cs) :
    (Text.splitBlank (cs ++ [','])).flatMap ofPiece = (Text.splitBlank cs).flatMap ofPiece ++ [","] := by
  rcases Text.solid_or_cut cs with hsolid | ⟨front, b, rest, rfl, -, hb⟩
  · cases cs with
    | nil => decide
    | cons c cs =>
      have solid : Text.Solid (c :: (cs ++ [','])) := by
        rw [← List.cons_append]
        exact List.forall_mem_append.2 ⟨hsolid, by simp [Text.isBlank, Text.isAscii]⟩
      have apart : ofPiece (c :: (cs ++ [','])) = [String.ofList (c :: cs), ","] := by
        rw [ofPiece, ← List.cons_append, List.getLast?_concat, List.dropLast_concat]
        rfl
      rw [List.cons_append, Text.splitBlank_of_solid solid, Text.splitBlank_of_solid hsolid, List.flatMap_singleton,
        List.flatMap_singleton, ofPiece_of_not_mem h, apart]
      rfl
  · have hrest : ',' ∉ rest := fun hcomma => h (List.mem_append_right _ (List.mem_cons_of_mem _ hcomma))
    rw [List.append_assoc, List.cons_append, Text.splitBlank_append_blank _ hb, Text.splitBlank_append_blank _ hb,
      List.flatMap_append, List.flatMap_append, flatMap_ofPiece_comma hrest, List.append_assoc]
termination_by cs.length
decreasing_by simp_all; omega

theorem ofBody_concat_comma {text : String} (h : ',' ∉ text.toList) : ofBody (text ++ ",") = ofBody text ++ [","] := by
  rw [ofBody, String.toList_append, show ",".toList = [','] from rfl, flatMap_ofPiece_comma h, ofBody]

end Words

/-- **A separable name is listed by its words.** -/
theorem listable_of_separable {name : String} (h : Separable name) (hcloses : Direction.ClosesPlain name) :
    Direction.Listable name where
  nonempty := h.nonempty
  words := Words.ofBody_of_not_mem h.comma
  listed := by rw [Words.ofBody_concat_comma h.comma, Words.ofBody_of_not_mem h.comma]
  closes := hcloses

/-! ## Names that are heard -/

namespace Words

theorem Cased.exists_same {ws vs : Words} (h : Cased ws vs) {w : String} (hw : w ∈ ws) :
    ∃ v ∈ vs, Text.same w v = true := by
  induction h with
  | nil => cases hw
  | cons hsame _ ih =>
    rcases List.mem_cons.1 hw with rfl | hw
    · exact ⟨_, List.mem_cons_self, hsame⟩
    · obtain ⟨v, hv, hsame⟩ := ih hw
      exact ⟨v, List.mem_cons_of_mem _ hv, hsame⟩

end Words

/-- no word of a separable name is a separator, in whatever case -/
theorem Separable.same_eq_false {name word separator : String} (h : Separable name) (hword : word ∈ Text.words name)
    (hsep : separator = "," ∨ separator = "and") : Text.same separator word = false := by
  rcases hsep with rfl | rfl
  · refine Bool.eq_false_iff.2 fun hsame => h.comma ?_
    have folded : Text.foldCase ([] ++ [',']) = Text.foldCase word.toList := Text.sameFolded_iff.1 hsame
    obtain ⟨front, hfront, -⟩ := Words.exists_comma folded
    obtain ⟨piece, hpiece, rfl⟩ := List.mem_map.1 hword
    refine (Text.mem_splitBlank hpiece).2.2 ',' ?_
    rw [← String.toList_ofList (l := piece), hfront]
    exact List.mem_append_right _ (List.mem_singleton_self _)
  · rw [Text.same_comm]
    exact h.conjunction word hword

namespace Cast

variable {cast : Cast} (h : cast.Recovered)
include h

/-- names with the same words up to letter case are one -/
theorem Recovered.eq_of_cased {a b : String} (ha : a ∈ cast.names) (hb : b ∈ cast.names)
    (hcased : Words.Cased (Text.words a) (Text.words b)) : a = b := by
  refine h.eq_of_identifier ha hb ?_
  rw [identifierFor, identifierFor, map_eq_of_forall₂ (fun _ _ hsame => Text.lowercase_congr hsame) hcased]

/-- **Each name is heard as its character**, whatever other names begin with it or end with it. -/
theorem Recovered.heardAs (separable : ∀ name ∈ cast.names, Separable name) {id : Ident} {name : String}
    (hmember : (id, name) ∈ cast.members) : Direction.HeardAs cast name id := by
  intro rest hrest
  have hname := mem_names hmember
  have longest : Words.eatLongest cast.names (Text.words name ++ rest) = some (name, rest) := by
    refine Words.eatLongest_eq_longest hname (Words.eatPhrase_words (separable name hname).nonempty rest) ?_
    intro other hother hne left hleft
    obtain ⟨-, front, hfront, hcased⟩ := Words.eatPhrase_eq_some_iff.1 hleft
    rcases List.append_eq_append_iff.1 hfront with ⟨more, rfl, hmore⟩ | ⟨more, hwords, rfl⟩
    · cases more with
      | nil =>
        rw [List.append_nil] at hcased
        exact absurd (h.eq_of_cased hname hother hcased).symm hne
      | cons next more =>
        -- a longer name would have the separator for one of its words
        have hnext := hrest next (by rw [hmore]; rfl)
        obtain ⟨word, hword, hsame⟩ := hcased.exists_same (List.mem_append_right _ List.mem_cons_self)
        rw [(separable other hother).same_eq_false hword hnext] at hsame
        cases hsame
    · cases more with
      | nil =>
        rw [List.append_nil] at hwords
        exact absurd (h.eq_of_cased hname hother (hwords ▸ hcased)).symm hne
      | cons next more =>
        simp only [List.length_append, List.length_cons]
        omega
  simp only [Direction.readName, longest, h.drawn.identOf_of_mem hmember]

end Cast

/-! ## Names that end with a mark -/

namespace Text

/-- the words of a text are what is not blank in it -/
theorem flatten_splitBlank (cs : List Char) : (splitBlank cs).flatten = ink cs := by
  induction cs with
  | nil => rfl
  | cons c cs ih =>
    cases hc : isBlank c with
    | true => rw [splitBlank_cons_blank hc, ih, ink, ink, List.filter_cons_of_neg (by simp [hc])]
    | false =>
      rw [splitBlank_cons_ink hc, ink, List.filter_cons_of_pos (by simp [hc]), ← ink, ← ih]
      split
      · rfl
      · exact flatten_extendFirst c _

end Text

namespace Words

/-- what is written in words -/
def chars (ws : Words) : List Char := ws.flatMap String.toList

theorem chars_ofPiece (piece : List Char) : (ofPiece piece).chars = piece := by
  unfold ofPiece
  split
  · rename_i hlast
    obtain ⟨front, rfl⟩ := List.getLast?_eq_some_iff.1 hlast
    rw [List.dropLast_concat]
    cases front <;> simp [chars]
  · simp [chars]

theorem chars_flatMap_ofPiece (cs : List Char) : Words.chars ((Text.splitBlank cs).flatMap ofPiece) = Text.ink cs := by
  have pieces : (Text.splitBlank cs).flatMap (fun piece => (ofPiece piece).chars) = (Text.splitBlank cs).flatMap id :=
    List.flatMap_congr fun piece _ => chars_ofPiece piece
  rw [← Text.flatten_splitBlank, ← List.flatMap_id, ← pieces, chars, List.flatMap_assoc]
  rfl

theorem chars_words (s : String) : Words.chars (Text.words s) = Text.ink s.toList := by
  rw [chars, Text.words, List.flatMap_map, ← Text.flatten_splitBlank]
  simp [List.flatMap_def]

/-- a text is read for no more characters than it has -/
theorem length_chars_ofText (s : String) : (ofText s).chars.length ≤ (Text.ink s.toList).length := by
  have sub : (dropTerminator (Text.trimChars s.toList)).Sublist (Text.trimChars s.toList) := by
    unfold dropTerminator
    split
    · exact List.dropLast_sublist _
    · exact List.Sublist.refl _
  rw [ofText, chars_flatMap_ofPiece, ← Text.ink_trimChars s.toList]
  exact (sub.filter _).length_le

theorem Cased.length_chars {ws vs : Words} (h : Cased ws vs) : ws.chars.length = vs.chars.length := by
  induction h with
  | nil => rfl
  | cons hsame _ ih =>
    rw [chars, chars, List.flatMap_cons, List.flatMap_cons, List.length_append, List.length_append]
    exact congrArg₂ _ (Text.length_eq_of_same hsame) ih

end Words

namespace Direction

open Lexicon

/-- a name is read from its words, up to letter case -/
theorem exists_of_readName {cast : Cast} {ws left : Words} {id : Ident} (h : readName cast ws = .ok (id, left)) :
    ∃ name front, name ∈ cast.names ∧ cast.identOf name = some id ∧ ws = front ++ left ∧
      Words.Cased front (Text.words name) := by
  unfold readName at h
  split at h
  · rename_i name rest hlongest
    split at h
    · cases h
      obtain ⟨hname, heat⟩ := Words.mem_of_eatLongest hlongest
      obtain ⟨-, front, hfront, hcased⟩ := Words.eatPhrase_eq_some_iff.1 heat
      exact ⟨name, front, hname, ‹_›, hfront, hcased⟩
    · cases h
  · split at h <;> cases h

/-- an exit is read from its verb and the words of the name of whoever leaves -/
theorem exists_of_parse_exit {cast : Cast} {text : String} {id : Ident} (h : parse cast text = .ok (.exit id)) :
    ∃ verb name front, name ∈ cast.names ∧ cast.identOf name = some id ∧ directionWords text = verb :: front ∧
      Text.same verb "exit" = true ∧ Words.Cased front (Text.words name) := by
  unfold parse at h
  rw [← directionWords] at h
  dsimp only at h
  split at h
  · obtain ⟨ids, -, h⟩ := bind_eq_ok.1 h
    split at h <;> cases h
  split at h
  · rename_i rest hexit
    obtain ⟨⟨other, left⟩, hread, h⟩ := bind_eq_ok.1 h
    obtain ⟨_, hend, hid⟩ := bind_eq_ok.1 h
    cases hid
    obtain ⟨name, front, hname, hident, rfl, hfront⟩ := exists_of_readName hread
    cases left with
    | nil =>
      rw [List.append_nil] at hexit
      obtain ⟨verb, hwords, hverb⟩ := Words.exists_of_eat hexit
      exact ⟨verb, name, front, hname, hident, hwords, hverb, hfront⟩
    | cons next left => cases hend
  split at h
  · obtain ⟨ids, -, h⟩ := bind_eq_ok.1 h
    cases h
  · cases h

/-- a name that does not close plainly has a mark or a bracket for its last character that is not blank -/
theorem closesPlain_or_mark {name : String} (h : Text.words name ≠ []) :
    ClosesPlain name ∨ ∃ front mark back, name.toList = front ++ mark :: back ∧ Text.Blank back ∧
      (isTerminator mark = true ∨ mark = ']') := by
  obtain ⟨before, behind, hbefore, hbehind, parts⟩ := Text.exists_padding name.toList
  have hne : Text.trimChars name.toList ≠ [] := by
    intro hnil
    rw [hnil, List.append_nil] at parts
    refine h (List.map_eq_nil_iff.2 ?_)
    rw [parts, Text.splitBlank_blank_append hbefore, ← List.append_nil behind, Text.splitBlank_blank_append hbehind]
    rfl
  obtain ⟨mark, hmark, hink⟩ := (Text.tight_trimChars hne).last
  obtain ⟨front, hfront⟩ := List.getLast?_eq_some_iff.1 hmark
  have split : name.toList = before ++ front ++ mark :: behind := by rw [parts, hfront]; simp
  by_cases hplain : isTerminator mark = false ∧ mark ≠ ']'
  · exact .inl ⟨_, mark, behind, split, hbehind, hink, hplain⟩
  · refine .inr ⟨_, mark, behind, split, hbehind, ?_⟩
    rwa [not_and_or, not_not, Bool.not_eq_false] at hplain

theorem isBlank_of_mark {mark : Char} (h : isTerminator mark = true ∨ mark = ']') : Text.isBlank mark = false := by
  rcases h with h | rfl
  · exact isBlank_of_isTerminator h
  · decide

/-- the mark or the bracket behind a direction is no part of its words -/
theorem length_chars_directionWords {text : String} {first mark : Char} {front back : List Char}
    (hfirst : Text.isBlank first = false) (hbracket : first ≠ '[')
    (htext : text.toList = first :: front ++ mark :: back) (hback : Text.Blank back)
    (hmark : isTerminator mark = true ∨ mark = ']') :
    (directionWords text).chars.length ≤ (Text.ink (first :: front)).length := by
  have hink := isBlank_of_mark hmark
  have trimmed : Text.trimChars text.toList = first :: front ++ [mark] := by
    have parts : text.toList = first :: front ++ [mark] ++ back := by rw [htext]; simp
    have keep : Text.dropBlankFront (first :: front) = first :: front := by simp [Text.dropBlankFront, hfirst]
    rw [parts, Text.trimChars_append_blank _ hback, Text.trimChars_concat _ hink, keep]
  by_cases hclose : mark = ']'
  · have unbracketed : dropBrackets (first :: front ++ [mark]) = first :: front := by
      simp only [dropBrackets, List.cons_append, List.head?_cons, Option.some.injEq, hbracket, if_false]
      rw [if_pos (by rw [← List.cons_append, List.getLast?_concat, hclose]), ← List.cons_append, List.dropLast_concat]
    have fewer := Words.length_chars_ofText (String.ofList (first :: front))
    rw [String.toList_ofList] at fewer
    rwa [directionWords, trimmed, unbracketed]
  · have unbracketed : dropBrackets (first :: front ++ [mark]) = first :: front ++ [mark] := by
      simp only [dropBrackets, List.cons_append, List.head?_cons, Option.some.injEq, hbracket, if_false]
      rw [← List.cons_append, List.getLast?_concat, if_neg (by simpa using hclose)]
    have terminated : String.ofList (first :: front ++ [mark]) =
        String.ofList (first :: front) ++ String.singleton mark := by simp [← String.toList_inj]
    rw [directionWords, trimmed, unbracketed, terminated,
      Words.ofText_terminated _ (by simp) (hmark.resolve_right hclose), Words.ofBody, Words.chars_flatMap_ofPiece,
      String.toList_ofList]

/-- **A name that is read back at an exit ends with no mark and no bracket**, since what is read would be shorter. -/
theorem closes_of_parse_exit {cast : Cast} (h : cast.Recovered) {id : Ident} {name : String}
    (hmember : (id, name) ∈ cast.members) (hname : Separable name)
    (hparse : parse cast ("Exit " ++ name) = .ok (.exit id)) : ClosesPlain name := by
  refine (closesPlain_or_mark hname.nonempty).resolve_right ?_
  rintro ⟨front, mark, back, hparts, hback, hmark⟩
  obtain ⟨verb, other, ws, hother, hident, hwords, hverb, hcased⟩ := exists_of_parse_exit hparse
  have itself : other = name := by
    obtain ⟨⟨id', _⟩, hmember', rfl⟩ := List.mem_map.1 hother
    cases Option.some.inj ((h.drawn.identOf_of_mem hmember').symm.trans hident)
    exact congrArg Prod.snd (List.inj_on_of_nodup_map h.once hmember' hmember rfl)
  have heard : (directionWords ("Exit " ++ name)).chars.length = (Text.ink name.toList).length + 4 := by
    have letters := Words.Cased.length_chars (.cons hverb hcased)
    rw [hwords, letters, itself, ← Words.chars_words]
    simp [Words.chars]
  have text : ("Exit " ++ name).toList = 'E' :: ("xit ".toList ++ front) ++ mark :: back := by
    rw [String.toList_append, hparts]
    simp
  have fewer := length_chars_directionWords (by decide) (by decide) text hback hmark
  have verbInk : Text.ink ('E' :: "xit ".toList) = ['E', 'x', 'i', 't'] := by decide
  rw [heard, hparts, ← List.cons_append, Text.ink_append, Text.ink_append, verbInk, Text.ink, Text.ink,
    List.filter_cons_of_pos (by simp [isBlank_of_mark hmark])] at fewer
  simp only [List.length_append, List.length_cons, List.length_nil] at fewer
  omega

end Direction

namespace Cast

/-- **Directions are read back as they were composed**, bare or between brackets, whatever the names of the play that
separators are no part of, exactly if none of them ends with a mark or a bracket. -/
theorem parse_compose_iff_closes {names : List String} {cast : Cast} (recovered : recover names = .ok cast)
    (separable : ∀ name ∈ names, Separable name) :
    (∀ direction : StageDirection, direction ≠ .enter [] →
        (∀ id ∈ direction.mentions, id ∈ names.map identifierFor) →
        ∃ text, Direction.compose cast direction = .ok text ∧
          Direction.parse cast text = .ok direction ∧ Direction.parse cast ("[" ++ text ++ "]") = .ok direction) ↔
      ∀ name ∈ names, Direction.ClosesPlain name := by
  have hcast := recovered_of_recover recovered
  obtain ⟨hnames, hids, -⟩ := identifiers_of_recover recovered
  rw [← hids]
  subst hnames
  constructor
  · intro back name hname
    obtain ⟨⟨id, _⟩, hmember, rfl⟩ := List.mem_map.1 hname
    have leaving : ∀ id' ∈ (StageDirection.exit id).mentions, id' ∈ cast.members.map (·.1) :=
      List.forall_mem_singleton.2 (List.mem_map_of_mem hmember)
    obtain ⟨text, htext, hparse, -⟩ := back (.exit id) (by simp) leaving
    rw [Direction.compose, Direction.nameOf, nameOf_of_mem hcast.once hmember] at htext
    cases htext
    exact Direction.closes_of_parse_exit hcast hmember (separable _ hname) hparse
  · intro closes direction hentrance hmentions
    have named : ∀ id ∈ direction.mentions, ∃ name, cast.nameOf id = some name := fun id hid =>
      Option.ne_none_iff_exists'.1 fun hnone => nameOf_eq_none hnone (hmentions id hid)
    obtain ⟨text, htext⟩ := Direction.compose_isOk_iff.2 ⟨hentrance, named⟩
    have heard : ∀ id ∈ direction.mentions, ∀ name, cast.nameOf id = some name →
        Direction.Listable name ∧ Direction.HeardAs cast name id := by
      intro id _ name hname
      have hmember := nameOf_eq_some hname
      have hlisted := mem_names hmember
      exact ⟨listable_of_separable (separable name hlisted) (closes name hlisted), hcast.heardAs separable hmember⟩
    have read := Direction.parse_composed (f := id) heard htext
    rw [direction.rename_id] at read
    exact ⟨text, htext, read _ List.mem_cons_self, read _ (List.mem_cons_of_mem _ List.mem_cons_self)⟩

/-- a cast in which one name begins with another and ends with a third -/
def household : Cast := ⟨[], [(⟨"lady"⟩, "Lady"), (⟨"macbeth"⟩, "Macbeth"), (⟨"lady_macbeth"⟩, "Lady Macbeth")]⟩

/-- some of them leave, and one of these twice -/
def departure : StageDirection := .exeunt [⟨"lady_macbeth"⟩, ⟨"lady"⟩, ⟨"macbeth"⟩, ⟨"lady_macbeth"⟩]

theorem parse_compose_departure :
    recover ["Lady", "Macbeth", "Lady Macbeth"] = .ok household ∧
      (∀ name ∈ ["Lady", "Macbeth", "Lady Macbeth"], Separable name) ∧
      ∃ text, Direction.compose household departure = .ok text ∧ Direction.parse household text = .ok departure ∧
        Direction.parse household ("[" ++ text ++ "]") = .ok departure := by
  have recovered : recover ["Lady", "Macbeth", "Lady Macbeth"] = .ok household := rfl
  have separable : ∀ name ∈ ["Lady", "Macbeth", "Lady Macbeth"], Separable name := by
    intro name hname
    refine ⟨?_, ?_, ?_⟩ <;> revert name <;> decide
  have closes : ∀ name ∈ ["Lady", "Macbeth", "Lady Macbeth"], Direction.EndsPlain name := by
    intro name hname
    simp only [List.mem_cons, List.not_mem_nil, or_false] at hname
    rcases hname with rfl | rfl | rfl
    · exact ⟨'y', rfl, by decide⟩
    · exact ⟨'h', rfl, by decide⟩
    · exact ⟨'h', rfl, by decide⟩
  have back := (parse_compose_iff_closes recovered separable).2 fun name hname => (closes name hname).closes
  exact ⟨recovered, separable, back departure (by simp [departure]) (by decide)⟩

/-- a cast with a name that a blank ends, and a mark before it -/
def guests : Cast := ⟨[], [(⟨"bob."⟩, "Bob. ")]⟩

/-- it is not enough that the last character of a name is no mark and no bracket -/
theorem not_parse_compose_marked :
    recover ["Bob. "] = .ok guests ∧ Separable "Bob. " ∧
      (∃ c ∈ "Bob. ".toList.getLast?, isTerminator c = false ∧ c ≠ ']') ∧
      Direction.compose guests (.exit ⟨"bob."⟩) = .ok "Exit Bob. " ∧
      Direction.parse guests "Exit Bob. " ≠ .ok (.exit ⟨"bob."⟩) := by
  refine ⟨rfl, ⟨by decide, by decide, by decide⟩, ⟨' ', rfl, by decide⟩, rfl, ?_⟩
  intro hparse
  have answer : (Direction.parse guests "Exit Bob. ").toOption = none := by decide
  rw [hparse] at answer
  cases answer

end Cast

end Playscript
