/-
The grammar of templates.

- `Template.Item`: the texts that a template is made of, each with the piece that it stands for;
- `pieces_eq_ok_iff`: a text is read as pieces exactly if it is made of items that stand for them, one after the other;
- `Template.Gathered`: no literal is empty, and none stands next to another;
- `gathered_gather`, `Gathered.gather_pieces`: pieces are gathered into such segments, the only ones made up of them;
- `Template.write`: segments written as a template;
- `template_grammar`: so a text is a template exactly if it is made of items, and written segments are read again.
-/
import Playscript.Proofs.Cast.Template
import Playscript.Proofs.Outcome
import Mathlib.Data.List.Chain
import Mathlib.Data.List.Forall2

namespace Playscript.Template

/-- a text that means something in a template, with the piece that it stands for: a character other than a brace, a
brace written twice, or an identifier between braces, with blanks around it or none -/
inductive Item : List Char → Piece → Prop where
  | plain {c : Char} : isBrace c = false → Item [c] (.char c)
  | doubled {brace : Char} : isBrace brace = true → Item [brace, brace] (.char brace)
  | braced {content : List Char} : (∀ c ∈ content, isBrace c = false) → ¬ Text.Blank content →
    Item ('\x7b' :: (content ++ ['\x7d'])) (.placeholder ⟨String.ofList (Text.trimChars content)⟩)

/-- an item that stands for a character is that character as a template spells it -/
theorem Item.eq_escapeBrace {item : List Char} {c : Char} (h : Item item (.char c)) : item = escapeBrace c := by
  cases h with
  | plain hplain => simp [escapeBrace, hplain]
  | doubled hbrace => simp [escapeBrace, hbrace]

/-- one item is read as the piece that it stands for, whatever follows -/
theorem Item.pieces_append {item : List Char} {piece : Piece} (h : Item item piece) (text : List Char) :
    pieces (item ++ text) = (piece :: ·) <$> pieces text := by
  cases piece with
  | char c =>
    rw [h.eq_escapeBrace]
    exact pieces_escapeBrace c text
  | placeholder id =>
    cases h with
    | @braced content hplain hink =>
      rw [List.cons_append, List.append_assoc, List.singleton_append]
      exact pieces_braced hplain hink text

/-- a text made of items is read as the pieces that they stand for -/
theorem pieces_flatten {items : List (List Char)} {parts : List Piece} (h : List.Forall₂ Item items parts) :
    pieces items.flatten = .ok parts := by
  induction h with
  | nil => rw [List.flatten_nil, pieces]
  | cons hitem _ ih =>
    rw [List.flatten_cons, hitem.pieces_append, ih]
    rfl

/-- items stand for pieces, in order -/
theorem exists_pieces_iff {items : List (List Char)} :
    (∃ parts, List.Forall₂ Item items parts) ↔ ∀ item ∈ items, ∃ piece, Item item piece := by
  induction items with
  | nil => exact iff_of_true ⟨[], .nil⟩ nofun
  | cons item items ih =>
    rw [List.forall_mem_cons, ← ih]
    constructor
    · rintro ⟨parts, hparts⟩
      cases hparts with
      | cons hpiece hrest => exact ⟨⟨_, hpiece⟩, _, hrest⟩
    · rintro ⟨⟨piece, hpiece⟩, parts, hparts⟩
      exact ⟨piece :: parts, .cons hpiece hparts⟩

theorem identifier?_eq_ok {content : List Char} {id : Ident} (h : identifier? content = .ok id) :
    ¬ Text.Blank content ∧ id = ⟨String.ofList (Text.trimChars content)⟩ := by
  by_cases hblank : Text.Blank content
  · rw [identifier?, Text.trimChars_eq_nil_iff.2 hblank] at h
    cases h
  · rw [identifier?_of_ink hblank] at h
    cases h
    exact ⟨hblank, rfl⟩

/-- a text that is read at all is made of items -/
theorem exists_items {text : List Char} {parts : List Piece} (h : pieces text = .ok parts) :
    ∃ items, text = items.flatten ∧ List.Forall₂ Item items parts := by
  induction text using pieces.induct generalizing parts with
  | case1 =>
    rw [pieces] at h
    cases h
    exact ⟨[], rfl, .nil⟩
  | case2 cs hdouble ih =>
    rw [pieces, if_pos rfl, if_pos hdouble] at h
    obtain ⟨rest, hrest, hparts⟩ := bind_eq_ok.1 h
    cases hparts
    obtain ⟨tail, rfl⟩ := List.head?_eq_some_iff.1 hdouble
    obtain ⟨items, htail, hitems⟩ := ih hrest
    exact ⟨['\x7b', '\x7b'] :: items, by rw [List.flatten_cons, ← htail]; rfl, .cons (.doubled (by decide)) hitems⟩
  | case3 cs hsingle hclosed ih =>
    rw [pieces, if_pos rfl, if_neg hsingle, if_pos hclosed] at h
    obtain ⟨id, hid, h⟩ := bind_eq_ok.1 h
    obtain ⟨rest, hrest, hparts⟩ := bind_eq_ok.1 h
    cases hparts
    obtain ⟨hink, rfl⟩ := identifier?_eq_ok hid
    obtain ⟨items, htail, hitems⟩ := ih hrest
    obtain ⟨tail, hbehind⟩ := List.head?_eq_some_iff.1 hclosed
    have plain : ∀ c ∈ cs.takeWhile fun c => !isBrace c, isBrace c = false := fun c hc => by
      simpa using List.mem_takeWhile_imp hc
    refine ⟨_, ?_, .cons (.braced plain hink) hitems⟩
    rw [List.flatten_cons, ← htail, hbehind, List.tail_cons]
    have split := List.takeWhile_append_dropWhile (p := fun c => !isBrace c) (l := cs)
    rw [hbehind] at split
    conv_lhs => rw [← split]
    simp
  | case4 cs hsingle hunclosed =>
    rw [pieces, if_pos rfl, if_neg hsingle, if_neg hunclosed] at h
    cases h
  | case5 cs hdouble hbrace ih =>
    rw [pieces, if_neg hbrace, if_pos rfl, if_pos hdouble] at h
    obtain ⟨rest, hrest, hparts⟩ := bind_eq_ok.1 h
    cases hparts
    obtain ⟨tail, rfl⟩ := List.head?_eq_some_iff.1 hdouble
    obtain ⟨items, htail, hitems⟩ := ih hrest
    exact ⟨['\x7d', '\x7d'] :: items, by rw [List.flatten_cons, ← htail]; rfl, .cons (.doubled (by decide)) hitems⟩
  | case6 cs hsingle hbrace =>
    rw [pieces, if_neg hbrace, if_pos rfl, if_neg hsingle] at h
    cases h
  | case7 c cs hopen hclose ih =>
    rw [pieces, if_neg hopen, if_neg hclose] at h
    obtain ⟨rest, hrest, hparts⟩ := bind_eq_ok.1 h
    cases hparts
    obtain ⟨items, htail, hitems⟩ := ih hrest
    have plain : isBrace c = false := by simp [isBrace, hopen, hclose]
    exact ⟨[c] :: items, by rw [List.flatten_cons, ← htail]; rfl, .cons (.plain plain) hitems⟩

/-- **The reader accepts its grammar**, and reads each item as the piece that it stands for. -/
theorem pieces_eq_ok_iff {text : List Char} {parts : List Piece} :
    pieces text = .ok parts ↔ ∃ items, text = items.flatten ∧ List.Forall₂ Item items parts := by
  constructor
  · exact exists_items
  · rintro ⟨items, rfl, hitems⟩
    exact pieces_flatten hitems

/-! ## Segments -/

namespace Segment

/-- the pieces of which a segment is made up -/
def pieces : Segment → List Piece
  | .literal text => text.toList.map .char
  | .placeholder id => [.placeholder id]

/-- a segment as a template spells it -/
def spelled : Segment → List Char
  | .literal text => text.toList.flatMap escapeBrace
  | .placeholder id => placeholderText id

theorem spelled_eq (segment : Segment) : segment.spelled = segment.pieces.flatMap Piece.spelled := by
  cases segment with
  | literal text =>
    rw [pieces, List.flatMap_map]
    rfl
  | placeholder id =>
    rw [pieces, List.flatMap_singleton]
    rfl

end Segment

theorem pieces_consChar (c : Char) (segments : List Segment) :
    (consChar c segments).flatMap Segment.pieces = .char c :: segments.flatMap Segment.pieces := by
  unfold consChar
  split
  · rw [List.flatMap_cons, List.flatMap_cons, Segment.pieces, String.toList_append, String.toList_singleton]
    rfl
  · rw [List.flatMap_cons, Segment.pieces, String.toList_singleton]
    rfl

/-- segments are made up of the pieces that they were gathered from -/
theorem pieces_gather (parts : List Piece) : (gather parts).flatMap Segment.pieces = parts := by
  induction parts with
  | nil => rfl
  | cons part parts ih =>
    cases part with
    | char c => rw [gather, pieces_consChar, ih]
    | placeholder id =>
      rw [gather, List.flatMap_cons, ih]
      rfl

/-- segments as they are gathered: no literal is empty, and none stands next to another -/
structure Gathered (segments : List Segment) : Prop where
  nonempty : ∀ text, .literal text ∈ segments → text.toList ≠ []
  alternate : segments.IsChain fun a b => ∀ text other, a = .literal text → b ≠ .literal other

theorem Gathered.consChar {segments : List Segment} (h : Gathered segments) (c : Char) :
    Gathered (consChar c segments) := by
  obtain ⟨nonempty, alternate⟩ := h
  unfold Template.consChar
  split
  · rename_i text rest
    constructor
    · intro other hother
      rcases List.mem_cons.1 hother with heq | hother
      · cases heq
        rw [String.toList_append, String.toList_singleton]
        exact List.cons_ne_nil c _
      · exact nonempty other (List.mem_cons_of_mem _ hother)
    · rw [List.isChain_cons] at alternate ⊢
      exact ⟨fun b hb first other _ => alternate.1 b hb text other rfl, alternate.2⟩
  · rename_i hnone
    constructor
    · intro other hother
      rcases List.mem_cons.1 hother with heq | hother
      · cases heq
        rw [String.toList_singleton]
        exact List.cons_ne_nil c []
      · exact nonempty other hother
    · rw [List.isChain_cons]
      refine ⟨fun b hb first other _ heq => ?_, alternate⟩
      obtain ⟨rest, hrest⟩ := List.head?_eq_some_iff.1 hb
      exact hnone other rest (heq ▸ hrest)

theorem gathered_gather (parts : List Piece) : Gathered (gather parts) := by
  induction parts with
  | nil => exact ⟨fun _ hnone => absurd hnone List.not_mem_nil, .nil⟩
  | cons part parts ih =>
    cases part with
    | char c => exact ih.consChar c
    | placeholder id =>
      rw [gather]
      refine ⟨fun text htext => ?_, List.isChain_cons.2 ⟨by simp, ih.alternate⟩⟩
      rcases List.mem_cons.1 htext with heq | htext
      · cases heq
      · exact ih.nonempty text htext

/-- characters in front of a placeholder, or of nothing, are gathered into one literal -/
theorem gather_literal {cs : List Char} (hne : cs ≠ []) {parts : List Piece}
    (hrest : ∀ text, (gather parts).head? ≠ some (.literal text)) :
    gather (cs.map .char ++ parts) = .literal (String.ofList cs) :: gather parts := by
  induction cs with
  | nil => exact absurd rfl hne
  | cons c cs ih =>
    rw [List.map_cons, List.cons_append, gather]
    cases cs with
    | nil =>
      rw [List.map_nil, List.nil_append, consChar]
      · rfl
      · intro text rest hgather
        exact hrest text (by rw [hgather, List.head?_cons])
    | cons d cs => rw [ih (List.cons_ne_nil d cs), consChar, ← String.ofList_cons]

/-- **Gathered segments are gathered again** from the pieces that they are made up of, so no others are. -/
theorem Gathered.gather_pieces {segments : List Segment} (h : Gathered segments) :
    gather (segments.flatMap Segment.pieces) = segments := by
  induction segments with
  | nil => rfl
  | cons segment segments ih =>
    obtain ⟨nonempty, alternate⟩ := h
    rw [List.isChain_cons] at alternate
    have ih := ih ⟨fun text htext => nonempty text (List.mem_cons_of_mem segment htext), alternate.2⟩
    rw [List.flatMap_cons]
    cases segment with
    | placeholder id =>
      rw [Segment.pieces, List.singleton_append, gather, ih]
    | literal text =>
      have behind : ∀ other, (gather (segments.flatMap Segment.pieces)).head? ≠ some (.literal other) := by
        intro other hother
        rw [ih] at hother
        exact alternate.1 _ hother text other rfl rfl
      rw [Segment.pieces, gather_literal (nonempty text List.mem_cons_self) behind, ih, String.ofList_toList]

/-- segments written as a template -/
def write (segments : List Segment) : String := String.ofList (segments.flatMap Segment.spelled)

theorem toList_write (segments : List Segment) :
    (write segments).toList = (segments.flatMap Segment.pieces).flatMap Piece.spelled := by
  rw [write, String.toList_ofList, List.flatMap_assoc]
  exact List.flatMap_congr fun segment _ => segment.spelled_eq

theorem parse?_of_pieces {text : String} {parts : List Piece} (h : pieces text.toList = .ok parts) :
    parse? text = .ok (gather parts) := by
  rw [parse?, h]
  rfl

/-- **Written segments are read again** if their identifiers can stand between braces. -/
theorem parse?_write {segments : List Segment} (gathered : Gathered segments)
    (placeable : ∀ id, .placeholder id ∈ segments → id.Placeable) : parse? (write segments) = .ok segments := by
  have named : ∀ id, .placeholder id ∈ segments.flatMap Segment.pieces → id.Placeable := by
    intro id hid
    obtain ⟨segment, hsegment, hid⟩ := List.mem_flatMap.1 hid
    cases segment with
    | literal text => simp [Segment.pieces] at hid
    | placeholder other =>
      cases List.mem_singleton.1 hid
      exact placeable id hsegment
  have read : pieces (write segments).toList = .ok (segments.flatMap Segment.pieces) := by
    rw [toList_write]
    exact pieces_spelled named
  rw [parse?_of_pieces read, gathered.gather_pieces]

/-- **Templates are read by their grammar.** A text is a template exactly if it is made of items, one after the other:
characters other than braces, braces written twice, and identifiers between braces. However it is taken for items, the
segments that it is read as are made up of the pieces that these stand for, in order, with no empty literal and no two
literals next to each other. Any such segments, written as a template, are read again as they are, if their identifiers
can stand between braces. -/
theorem template_grammar (text : String) (segments : List Segment) :
    ((∃ read, parse? text = .ok read) ↔
      ∃ items : List (List Char), text.toList = items.flatten ∧ ∀ item ∈ items, ∃ piece, Item item piece) ∧
    (∀ items parts, text.toList = items.flatten → List.Forall₂ Item items parts →
      ∃ read, parse? text = .ok read ∧ Gathered read ∧ read.flatMap Segment.pieces = parts) ∧
    (Gathered segments → (∀ id, .placeholder id ∈ segments → id.Placeable) →
      parse? (write segments) = .ok segments) := by
  have reads : ∀ items parts, text.toList = items.flatten → List.Forall₂ Item items parts →
      ∃ read, parse? text = .ok read ∧ Gathered read ∧ read.flatMap Segment.pieces = parts := by
    intro items parts htext hitems
    have hpieces : pieces text.toList = .ok parts := pieces_eq_ok_iff.2 ⟨items, htext, hitems⟩
    exact ⟨gather parts, parse?_of_pieces hpieces, gathered_gather parts, pieces_gather parts⟩
  refine ⟨⟨?_, ?_⟩, reads, parse?_write⟩
  · rintro ⟨read, hread⟩
    obtain ⟨parts, hparts, -⟩ := bind_eq_ok.1 hread
    obtain ⟨items, htext, hitems⟩ := pieces_eq_ok_iff.1 hparts
    exact ⟨items, htext, exists_pieces_iff.1 ⟨parts, hitems⟩⟩
  · rintro ⟨items, htext, hitems⟩
    obtain ⟨parts, hparts⟩ := exists_pieces_iff.2 hitems
    obtain ⟨read, hread, -⟩ := reads items parts htext hparts
    exact ⟨read, hread⟩

/-- a placeholder with blanks around its identifier, between two braces that are written twice: three braces in a row
on either side, which cannot be taken otherwise; written again it has no blanks -/
theorem template_grammar_braces :
    let segments : List Segment := [.literal "\x7b", .placeholder ⟨"a"⟩, .literal "\x7d"]
    (∃ read, parse? "\x7b\x7b\x7b a \x7d\x7d\x7d" = .ok read ∧ Gathered read ∧
      read.flatMap Segment.pieces = segments.flatMap Segment.pieces) ∧
    Gathered segments ∧ parse? (write segments) = .ok segments ∧
    write segments = "\x7b\x7b\x7ba\x7d\x7d\x7d" := by
  intro segments
  obtain ⟨-, reads, rewritten⟩ := template_grammar "\x7b\x7b\x7b a \x7d\x7d\x7d" segments
  have opening : Item ['\x7b', '\x7b'] (.char '\x7b') := .doubled (by decide)
  have closing : Item ['\x7d', '\x7d'] (.char '\x7d') := .doubled (by decide)
  have named : Item ['\x7b', ' ', 'a', ' ', '\x7d'] (.placeholder ⟨"a"⟩) :=
    @Item.braced [' ', 'a', ' '] (by simp [isBrace]) (by decide)
  have again : gather (segments.flatMap Segment.pieces) = segments := by decide
  have gathered : Gathered segments := again ▸ gathered_gather _
  have placeable : ∀ id, .placeholder id ∈ segments → id.Placeable := by
    intro id hid
    have same : id = ⟨"a"⟩ := by simpa [segments] using hid
    rw [same]
    exact ⟨by decide, by decide, by simp [isBrace]⟩
  refine ⟨reads _ _ (by decide) (.cons opening (.cons named (.cons closing .nil))), gathered, ?_, by decide⟩
  exact rewritten gathered placeable

end Playscript.Template
