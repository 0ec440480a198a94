/-
Noun phrases delimit themselves, however they are spelled.

- `NounPhrase.Spelled`: the ways to write a phrase down, and what is then heard. Any article or none may stand before a
  noun, zero is "nothing" or "zero", and ASCII letters may be large or small throughout;
- `Words.eatPhrase_eq_some_iff`: a phrase comes next where its words do, in whatever letter case;
- `Words.Clashes`: what keeps operators apart whose first words are the same;
- `Vocabulary.Delimiting`: a readable vocabulary that means nothing by the words that phrases are built with, nor by
  those that its names begin with;
- `readWithin_spelled`: with such a vocabulary every spelling is read as its phrase, whatever words follow;
- `read_spelled`: the standard vocabulary is one.
-/
import Playscript.Proofs.Cast
import Playscript.Proofs.Text.Lowercase
import Playscript.Proofs.Vocabulary

namespace Playscript

namespace Words

/-- the same words in whatever ASCII case -/
def Cased (ws vs : Words) : Prop := List.Forall₂ (fun w v => Text.same w v = true) ws vs

instance (ws vs : Words) : Decidable (Cased ws vs) :=
  inferInstanceAs (Decidable (List.Forall₂ (fun w v => Text.same w v = true) ws vs))

theorem Cased.refl (ws : Words) : Cased ws ws := List.forall₂_same.2 fun w _ => Text.same_refl w

theorem Cased.singleton {w : String} {vs : Words} (h : Cased [w] vs) : ∃ v, vs = [v] ∧ Text.same w v = true := by
  obtain ⟨v, more, hsame, hmore, rfl⟩ := List.forall₂_cons_left_iff.1 h
  rw [List.forall₂_nil_left_iff.1 hmore]
  exact ⟨v, rfl, hsame⟩

theorem eatAll_cased {ws vs : Words} (h : Cased ws vs) (rest : Words) : eatAll vs (ws ++ rest) = some rest := by
  induction h with
  | nil => rfl
  | cons hw _ ih =>
    rw [List.cons_append, eatAll, eat_eq_some hw]
    exact ih

theorem exists_of_eatAll {parts ws rest : Words} (h : eatAll parts ws = some rest) :
    ∃ front, ws = front ++ rest ∧ Cased front parts := by
  induction parts generalizing ws with
  | nil =>
    cases h
    exact ⟨[], rfl, .nil⟩
  | cons part parts ih =>
    rw [eatAll] at h
    obtain ⟨left, heat, hleft⟩ := Option.bind_eq_some_iff.1 h
    obtain ⟨w, rfl, hsame⟩ := exists_of_eat heat
    obtain ⟨front, rfl, hfront⟩ := ih hleft
    exact ⟨w :: front, rfl, .cons hsame hfront⟩

/-- **A phrase comes next where its words do**, in whatever case. -/
theorem eatPhrase_eq_some_iff {phrase : String} {ws rest : Words} :
    eatPhrase phrase ws = some rest ↔
      Text.words phrase ≠ [] ∧ ∃ front, ws = front ++ rest ∧ Cased front (Text.words phrase) := by
  unfold eatPhrase
  cases Text.words phrase with
  | nil => simp
  | cons part parts =>
    constructor
    · exact fun h => ⟨List.cons_ne_nil part parts, exists_of_eatAll h⟩
    · rintro ⟨-, front, rfl, hfront⟩
      exact eatAll_cased hfront rest

theorem eatPhrase_cased {phrase : String} {ws : Words} (hne : Text.words phrase ≠ []) (h : Cased ws (Text.words phrase))
    (rest : Words) : eatPhrase phrase (ws ++ rest) = some rest :=
  eatPhrase_eq_some_iff.2 ⟨hne, ws, rfl, h⟩

/-- two rows of words differ at a place that both have -/
def Clashes (parts vs : Words) : Prop := ∃ pair ∈ parts.zip vs, Text.same pair.2 pair.1 = false

instance (parts vs : Words) : Decidable (Clashes parts vs) :=
  inferInstanceAs (Decidable (∃ pair ∈ parts.zip vs, Text.same pair.2 pair.1 = false))

theorem eatAll_eq_none {parts vs ws : Words} (hclash : Clashes parts vs) (h : Cased ws vs) (rest : Words) :
    eatAll parts (ws ++ rest) = none := by
  obtain ⟨pair, hmem, hpair⟩ := hclash
  induction h generalizing parts with
  | nil => rw [List.zip_nil_right] at hmem; cases hmem
  | @cons w v ws vs hw _ ih =>
    cases parts with
    | nil => cases hmem
    | cons part parts =>
      rw [List.cons_append, eatAll]
      rw [List.zip_cons_cons] at hmem
      rcases List.mem_cons.1 hmem with rfl | hmem
      · rw [eat_eq_none (by rw [Text.same_congr hw]; exact hpair)]
        rfl
      · by_cases hpart : Text.same w part = true
        · rw [eat_eq_some hpart]
          exact ih hmem
        · rw [eat_eq_none (Bool.not_eq_true _ ▸ hpart)]
          rfl

theorem eatPhrase_eq_none_of_clashes {phrase : String} {vs ws : Words} (hclash : Clashes (Text.words phrase) vs)
    (h : Cased ws vs) (rest : Words) : eatPhrase phrase (ws ++ rest) = none := by
  have eaten := eatAll_eq_none hclash h rest
  unfold eatPhrase
  cases hwords : Text.words phrase with
  | nil => rfl
  | cons part parts => rwa [hwords] at eaten

theorem clashes_second {parts : Words} {a v : String} (hlength : 2 ≤ parts.length)
    (h : Text.same v (parts.getD 1 "") = false) : Clashes parts [a, v] := by
  match parts, hlength with
  | first :: second :: rest, _ => exact ⟨(second, v), by simp, h⟩

end Words

/-! ## Spellings -/

/-- words that a phrase may be written with, and the phrase that is heard: nouns and adjectives in small letters, and
pronouns as they are written -/
inductive NounPhrase.Spelled : NounPhrase → Words → NounPhrase → Prop
  | nothing {w zero : String} : zero ∈ ["nothing", "zero"] → Text.same w zero = true → Spelled .nothing [w] .nothing
  | bare {adjectives ws : List String} {word w : String} : Words.Cased ws adjectives → Text.same w word = true →
    Spelled (.noun adjectives word) (ws ++ [w]) (.noun (adjectives.map Text.lowercase) (Text.lowercase word))
  | noun {adjectives ws : List String} {word w article a : String} : article ∈ Phrase.articles →
    Text.same a article = true → Words.Cased ws adjectives → Text.same w word = true →
    Spelled (.noun adjectives word) (a :: (ws ++ [w]))
      (.noun (adjectives.map Text.lowercase) (Text.lowercase word))
  | pronoun {word w : String} : Text.same w word = true → Spelled (.pronoun word) [w] (.pronoun w)
  | name {name : String} {ws : Words} : Words.Cased ws (Text.words name) → Spelled (.name name) ws (.name name)
  | binary {lhs rhs lhs' rhs' : NounPhrase} {opening ws vs : Words} {w : String} (op : BinaryOp) :
    Words.Cased opening (Text.words op.opening) → Spelled lhs ws lhs' → Text.same w "and" = true →
    Spelled rhs vs rhs' → Spelled (.binary op lhs rhs) (opening ++ (ws ++ w :: vs)) (.binary op lhs' rhs')
  | unary {operand operand' : NounPhrase} {opening ws : Words} (op : UnaryOp) :
    Words.Cased opening (Text.words op.opening) → Spelled operand ws operand' →
    Spelled (.unary op operand) (opening ++ ws) (.unary op operand')
  | twice {operand operand' : NounPhrase} {w : String} {ws : Words} : Text.same w "twice" = true →
    Spelled operand ws operand' → Spelled (.twice operand) (w :: ws) (.twice operand')

namespace Phrase

/-- the second words of the operators' openings; the first of each is "the" -/
def secondWords : List String :=
  (binaryOps.map BinaryOp.opening ++ unaryOps.map UnaryOp.opening).map fun opening => (Text.words opening).getD 1 ""

end Phrase

/-- **A vocabulary with which phrases delimit themselves**: neither the words that phrases are built with nor those that
names begin with mean anything else -/
structure Vocabulary.Delimiting (vocabulary : Vocabulary) : Prop extends vocabulary.Readable where
  unlisted : ∀ word ∈ Words.particles ++ Phrase.articles ++ Phrase.secondWords, vocabulary.lexicon.classify word = none
  names_unlisted : ∀ name ∈ vocabulary.cast.names, vocabulary.lexicon.classify (Words.initial name) = none
  articles_apart : ∀ name ∈ vocabulary.cast.names, ∀ article ∈ Phrase.articles,
    Text.same (Words.initial name) article = false

/-- a phrase as it is written is one of its spellings, and is heard as it is -/
theorem NounPhrase.spelled_words {vocabulary : Vocabulary} (hv : vocabulary.Readable) {phrase : NounPhrase}
    (h : phrase.Over vocabulary.lexicon vocabulary.cast.names) : phrase.Spelled phrase.words phrase := by
  induction phrase with
  | nothing =>
    rw [words_nothing]
    exact .nothing (by decide) (Text.same_refl _)
  | noun adjectives word =>
    obtain ⟨⟨polarity, hn⟩, ha⟩ := h
    have single : ∀ adjective ∈ adjectives, Words.ofBody adjective = [adjective] := by
      intro adjective hmem
      obtain ⟨p, hp⟩ := ha adjective hmem
      exact hv.single _ hp
    have small : adjectives.map Text.lowercase = adjectives.map id := by
      refine List.map_congr_left fun adjective hmem => ?_
      obtain ⟨p, hp⟩ := ha adjective hmem
      exact hv.small_adjective adjective p hp
    have harticle : articleFor (adjectives.headD word) ∈ Phrase.articles := by
      rcases articleFor_mem (adjectives.headD word) with h | h <;> rw [h] <;> decide
    have spelled := Spelled.noun harticle (Text.same_refl _) (.refl adjectives) (Text.same_refl word)
    rw [small, List.map_id, hv.small_noun word polarity hn] at spelled
    rwa [words_noun (hv.single _ hn) single]
  | pronoun word =>
    obtain ⟨role, hw⟩ := h
    have hwords : (NounPhrase.pronoun word).words = [word] := hv.single _ hw
    rw [hwords]
    exact .pronoun (Text.same_refl word)
  | name called =>
    have hwords : (NounPhrase.name called).words = Text.words called := (hv.name_words called h).2
    rw [hwords]
    exact .name (.refl _)
  | binary op lhs rhs ihl ihr =>
    have hopening : Words.ofBody op.opening = Text.words op.opening := by cases op <;> decide
    rw [words_binary, hopening]
    exact .binary op (.refl _) (ihl h.1) (Text.same_refl _) (ihr h.2)
  | unary op operand ih =>
    have hopening : Words.ofBody op.opening = Text.words op.opening := by cases op <;> decide
    rw [words_unary, hopening]
    exact .unary op (.refl _) (ih h)
  | twice operand ih =>
    rw [words_twice]
    exact .twice (Text.same_refl _) (ih h)

namespace Phrase

/-! ## Operators -/

section Openings

variable {Op : Type} {opening : Op → String} {ops : List Op} {ws : Words}

/-- an operator is found if all others begin differently -/
theorem eatOpening_cased [DecidableEq Op] {op : Op} (hop : op ∈ ops) (hne : Text.words (opening op) ≠ [])
    (hother : ∀ other ∈ ops, other ≠ op → Words.Clashes (Text.words (opening other)) (Text.words (opening op)))
    (h : Words.Cased ws (Text.words (opening op))) (rest : Words) :
    eatOpening opening ops (ws ++ rest) = some (op, rest) := by
  have found : ∀ other ∈ ops, other ≠ op → Words.eatPhrase (opening other) (ws ++ rest) = none := fun other ho hne =>
    Words.eatPhrase_eq_none_of_clashes (hother other ho hne) h rest
  clear hother
  unfold eatOpening
  induction ops with
  | nil => cases hop
  | cons first ops ih =>
    rw [List.findSome?_cons]
    by_cases e : first = op
    · rw [e, Words.eatPhrase_cased hne h]
      rfl
    · rw [found first List.mem_cons_self e]
      have hop : op ∈ ops := (List.mem_cons.1 hop).resolve_left (Ne.symm e)
      exact ih hop fun other ho => found other (List.mem_cons_of_mem first ho)

/-- no operator is found where all begin differently -/
theorem eatOpening_eq_none_of_clashes {vs : Words}
    (hclash : ∀ op ∈ ops, Words.Clashes (Text.words (opening op)) vs) (h : Words.Cased ws vs) (rest : Words) :
    eatOpening opening ops (ws ++ rest) = none := by
  rw [eatOpening, List.findSome?_eq_none_iff]
  intro op hop
  rw [Words.eatPhrase_eq_none_of_clashes (hclash op hop) h]
  rfl

end Openings

/-! ## One step of the reader -/

/-- a word of the lexicon is found in whatever case -/
theorem classify_cased {lexicon : Lexicon} (hvalid : lexicon.validate = .ok ()) {word w : String} {kind : WordKind}
    (h : (word, kind) ∈ lexicon.entries) (hw : Text.same w word = true) : lexicon.classify w = some kind := by
  rw [Lexicon.classify, Text.lowercase_congr hw]
  exact Lexicon.classify_of_mem_entries hvalid h

section Steps

variable {vocabulary : Vocabulary} (hv : vocabulary.Delimiting)
include hv

/-- a word of the lexicon is none of those that mean nothing -/
theorem same_unlisted {word w other : String} {kind : WordKind} (h : (word, kind) ∈ vocabulary.lexicon.entries)
    (hw : Text.same w word = true) (hother : vocabulary.lexicon.classify other = none) : Text.same w other = false := by
  rw [← Bool.not_eq_true]
  intro hsame
  have found := classify_cased hv.valid h hw
  rw [Lexicon.classify, Text.lowercase_congr hsame] at found
  rw [Lexicon.classify] at hother
  rw [hother] at found
  cases found

/-- a noun or an adjective in whatever case -/
def IsValueWord (lexicon : Lexicon) (w : String) : Prop :=
  ∃ word kind, (word, kind) ∈ lexicon.entries ∧ Text.same w word = true ∧ ∀ role, kind ≠ .pronoun role

theorem IsValueWord.apart {w other : String} (h : IsValueWord vocabulary.lexicon w)
    (hother : other ∈ Words.particles ++ articles ++ secondWords) : Text.same w other = false := by
  obtain ⟨word, kind, hword, hw, -⟩ := h
  exact same_unlisted hv hword hw (hv.unlisted other hother)

theorem IsValueWord.personOf {w : String} (h : IsValueWord vocabulary.lexicon w) :
    vocabulary.lexicon.personOf w = none := by
  obtain ⟨word, kind, hword, hw, hkind⟩ := h
  rw [Lexicon.personOf, classify_cased hv.valid hword hw]
  cases kind with
  | pronoun role => exact absurd rfl (hkind role)
  | _ => rfl

omit hv in
theorem eatLongest_unlisted {w : String} (h : ∀ name ∈ vocabulary.cast.names, Text.same w (Words.initial name) = false)
    (ws : Words) : Words.eatLongest vocabulary.cast.names (w :: ws) = none :=
  Words.eatLongest_eq_none fun name hname => Words.eatPhrase_eq_none (h name hname) ws

omit hv in
/-- whatever article comes next is taken -/
theorem eatArticle_cased {article a : String} (h : article ∈ articles) (ha : Text.same a article = true) (ws : Words) :
    ∃ bare, eatArticle (a :: ws) = (bare, ws) := by
  unfold eatArticle
  split
  · exact ⟨_, rfl⟩
  · rename_i hnone
    have missed := List.find?_eq_none.1 hnone article h
    rw [Words.eat_eq_some ha] at missed
    exact absurd rfl missed

omit hv in
theorem eatArticle_eq_self {w : String} (h : ∀ article ∈ articles, Text.same w article = false) (ws : Words) :
    eatArticle (w :: ws) = (false, w :: ws) := by
  have none : articles.find? (fun article => (Words.eat article (w :: ws)).isSome) = none := by
    rw [List.find?_eq_none]
    intro article harticle
    rw [Words.eat_eq_none (h article harticle)]
    nofun
  rw [eatArticle, none]

/-! ### Nouns -/

section Nouns

variable {adjectives ws : List String} {noun w : String}
  (ha : ∀ adjective ∈ adjectives, ∃ polarity, (adjective, .adjective polarity) ∈ vocabulary.lexicon.entries)
  {polarity : Polarity} (hn : (noun, .noun polarity) ∈ vocabulary.lexicon.entries)
  (hws : Words.Cased ws adjectives) (hw : Text.same w noun = true)
include ha hn hws hw

omit hv in
theorem readNoun_cased (hvalid : vocabulary.lexicon.validate = .ok ()) (bare : Bool) (rest : Words) :
    readNoun vocabulary.lexicon bare (ws ++ w :: rest) =
      .ok ((adjectives.map Text.lowercase, Text.lowercase noun), rest) := by
  induction hws generalizing bare with
  | nil =>
    rw [List.nil_append, readNoun, classify_cased hvalid hn hw]
    simp only [Text.lowercase_congr hw, List.map_nil]
  | @cons v adjective vs adjectives hv' _ ih =>
    obtain ⟨p, hp⟩ := ha adjective List.mem_cons_self
    rw [List.cons_append, readNoun, classify_cased hvalid hp hv']
    simp only [ih (fun a h => ha a (List.mem_cons_of_mem adjective h)) false, Text.lowercase_congr hv', List.map_cons]
    rfl

omit hv in
/-- a noun with its adjectives begins with one of them -/
theorem exists_valueWord (rest : Words) :
    ∃ v more, ws ++ w :: rest = v :: more ∧ IsValueWord vocabulary.lexicon v := by
  cases hws with
  | nil => exact ⟨w, rest, rfl, noun, _, hn, hw, nofun⟩
  | @cons v adjective vs adjectives hv' _ =>
    obtain ⟨p, hp⟩ := ha adjective List.mem_cons_self
    exact ⟨v, vs ++ w :: rest, rfl, adjective, _, hp, hv', nofun⟩

/-- a noun without an article -/
theorem readWithin_bare (depth : Nat) (rest : Words) :
    readWithin vocabulary (depth + 1) (ws ++ w :: rest) =
      .ok (.noun (adjectives.map Text.lowercase) (Text.lowercase noun), rest) := by
  obtain ⟨v, more, hcons, hvalue⟩ := exists_valueWord ha hn hws hw rest
  have read := readNoun_cased ha hn hws hw hv.valid false rest
  rw [hcons] at read ⊢
  have plain : ∀ particle ∈ Words.particles, Text.same v particle = false := fun particle hp =>
    hvalue.apart hv (List.mem_append_left _ (List.mem_append_left _ hp))
  have noArticle : ∀ article ∈ articles, Text.same v article = false := fun article h =>
    hvalue.apart hv (List.mem_append_left _ (List.mem_append_right _ h))
  have noName : ∀ name ∈ vocabulary.cast.names, Text.same v (Words.initial name) = false := by
    intro name hname
    obtain ⟨word, kind, hword, hsame, -⟩ := hvalue
    exact same_unlisted hv hword hsame (hv.names_unlisted name hname)
  rw [readWithin_of_plain vocabulary plain, eatLongest_unlisted noName]
  simp only [readPlain, List.head?_cons, Option.filter_some, hvalue.personOf hv, Option.isSome_none, Bool.false_eq_true,
    if_false, eatArticle_eq_self noArticle, read]
  rfl

/-- a noun behind an article: "the" opens no operator there, for the word after it is none that follows "the" in one -/
theorem readWithin_article {article a : String} (harticle : article ∈ articles) (hsame : Text.same a article = true)
    (depth : Nat) (rest : Words) :
    readWithin vocabulary (depth + 1) (a :: (ws ++ w :: rest)) =
      .ok (.noun (adjectives.map Text.lowercase) (Text.lowercase noun), rest) := by
  obtain ⟨bare, heat⟩ := eatArticle_cased harticle hsame (ws ++ w :: rest)
  have read := readNoun_cased ha hn hws hw hv.valid bare rest
  obtain ⟨v, more, hcons, hvalue⟩ := exists_valueWord ha hn hws hw rest
  rw [hcons] at read heat ⊢
  have unopened : ∀ {Op : Type} {opening : Op → String} {ops : List Op},
      (∀ op ∈ ops, 2 ≤ (Text.words (opening op)).length ∧ (Text.words (opening op)).getD 1 "" ∈ secondWords) →
      eatOpening opening ops (a :: v :: more) = none := by
    intro Op opening ops h
    refine eatOpening_eq_none_of_clashes (fun op hop => ?_) (.refl [a, v]) more
    obtain ⟨hlength, hsecond⟩ := h op hop
    exact Words.clashes_second hlength (hvalue.apart hv (List.mem_append_right _ hsecond))
  have missed : ∀ word ∈ ["nothing", "zero", "twice"], Words.eat word (a :: v :: more) = none := by
    intro word hword
    have apart : ∀ word ∈ ["nothing", "zero", "twice"], ∀ article ∈ articles, Text.same article word = false := by decide
    exact Words.eat_eq_none (by rw [Text.same_congr hsame]; exact apart word hword article harticle) _
  have noName : ∀ name ∈ vocabulary.cast.names, Text.same a (Words.initial name) = false := by
    intro name hname
    rw [Text.same_congr hsame, Text.same_comm]
    exact hv.articles_apart name hname article harticle
  have person : vocabulary.lexicon.personOf a = none := by
    have unlisted := hv.unlisted article (List.mem_append_left _ (List.mem_append_right _ harticle))
    rw [Lexicon.classify, ← Text.lowercase_congr hsame] at unlisted
    rw [Lexicon.personOf, Lexicon.classify, unlisted]
  rw [readWithin, missed "nothing" (by decide), missed "zero" (by decide), missed "twice" (by decide)]
  dsimp only [HOrElse.hOrElse, OrElse.orElse, Option.orElse]
  rw [unopened (by decide), unopened (by decide), eatLongest_unlisted noName]
  simp only [readPlain, List.head?_cons, Option.filter_some, person, Option.isSome_none, Bool.false_eq_true, if_false,
    heat, read]
  rfl

end Nouns

/-! ### Everything else -/

omit hv in
theorem readWithin_zero {w zero : String} (hzero : zero ∈ ["nothing", "zero"]) (hw : Text.same w zero = true)
    (depth : Nat) (rest : Words) : readWithin vocabulary (depth + 1) (w :: rest) = .ok (.nothing, rest) := by
  have hcase : zero = "nothing" ∨ zero = "zero" := by simpa using hzero
  rw [readWithin]
  rcases hcase with rfl | rfl
  · rw [Words.eat_eq_some hw]
    rfl
  · have other : Text.same w "nothing" = false := by rw [Text.same_congr hw]; decide
    rw [Words.eat_eq_none other, Words.eat_eq_some hw]
    rfl

theorem readWithin_pronoun_cased {word w : String} {role : Role}
    (hword : (word, .pronoun role) ∈ vocabulary.lexicon.entries) (hw : Text.same w word = true) (depth : Nat)
    (rest : Words) : readWithin vocabulary (depth + 1) (w :: rest) = .ok (.pronoun w, rest) := by
  have plain : ∀ particle ∈ Words.particles, Text.same w particle = false := fun particle hp =>
    same_unlisted hv hword hw (hv.unlisted particle (List.mem_append_left _ (List.mem_append_left _ hp)))
  have noName : ∀ name ∈ vocabulary.cast.names, Text.same w (Words.initial name) = false := fun name hname =>
    same_unlisted hv hword hw (hv.names_unlisted name hname)
  have person : (vocabulary.lexicon.personOf w).isSome = true := by
    rw [Lexicon.personOf, classify_cased hv.valid hword hw]
    rfl
  rw [readWithin_of_plain vocabulary plain, eatLongest_unlisted noName]
  simp only [readPlain, List.head?_cons, Option.filter_some, person, if_true, List.tail_cons]

theorem readWithin_name_cased {name : String} {ws : Words} (hn : name ∈ vocabulary.cast.names)
    (hws : Words.Cased ws (Text.words name)) (depth : Nat) (rest : Words) :
    readWithin vocabulary (depth + 1) (ws ++ rest) = .ok (.name name, rest) := by
  have hne := (hv.name_words name hn).1
  have heat := Words.eatPhrase_cased hne hws rest
  have plain := hv.name_plain name hn
  have apart := hv.names_apart name hn
  rw [Words.initial] at plain apart
  cases hwords : Text.words name with
  | nil => exact absurd hwords hne
  | cons first more =>
    rw [hwords] at hws plain apart
    rcases hws with _ | @⟨w, _, ws, _, hw, -⟩
    have found : Words.eatLongest vocabulary.cast.names (w :: ws ++ rest) = some (name, rest) := by
      refine Words.eatLongest_eq_some hn heat fun other ho hother => Words.eatPhrase_eq_none ?_ _
      rw [Text.same_congr hw]
      exact apart other ho hother
    have plain : ∀ particle ∈ Words.particles, Text.same w particle = false := by
      intro particle hp
      rw [Text.same_congr hw]
      exact plain particle hp
    rw [List.cons_append] at found ⊢
    rw [readWithin_of_plain vocabulary plain, found]

omit hv in
/-- what comes before the operators does not begin with "the" -/
theorem eat_opening {opening : String} {ws : Words} (hopening : Words.initial opening = "the")
    (h : Words.Cased ws (Text.words opening)) (rest : Words) :
    ∀ word ∈ ["nothing", "zero", "twice"], Words.eat word (ws ++ rest) = none := by
  intro word hword
  have apart : ∀ word ∈ ["nothing", "zero", "twice"], Text.same "the" word = false := by decide
  cases hwords : Text.words opening with
  | nil =>
    rw [Words.initial, hwords] at hopening
    exact absurd hopening (by decide)
  | cons first more =>
    rw [Words.initial, hwords] at hopening
    rw [hwords] at h
    rcases h with _ | @⟨w, _, ws, _, hw, -⟩
    rw [List.cons_append, Words.eat_eq_none]
    rw [Text.same_congr hw, ← List.headD_cons (a := first), hopening]
    exact apart word hword

omit hv in
theorem readWithin_binary_cased (op : BinaryOp) {opening : Words} (h : Words.Cased opening (Text.words op.opening))
    (depth : Nat) (ws : Words) :
    readWithin vocabulary (depth + 1) (opening ++ ws) = (do
      let (lhs, rest) ← readWithin vocabulary depth ws
      let rest ← Words.expect .mismatch "and" rest
      let (rhs, rest) ← readWithin vocabulary depth rest
      return (.binary op lhs rhs, rest)) := by
  have missed := eat_opening (by cases op <;> decide) h ws
  have found : eatOpening BinaryOp.opening binaryOps (opening ++ ws) = some (op, ws) :=
    eatOpening_cased (by cases op <;> decide) (by cases op <;> decide) (by cases op <;> decide) h ws
  rw [readWithin, missed "nothing" (by decide), missed "zero" (by decide), missed "twice" (by decide)]
  dsimp only [HOrElse.hOrElse, OrElse.orElse, Option.orElse]
  rw [found]

omit hv in
theorem readWithin_unary_cased (op : UnaryOp) {opening : Words} (h : Words.Cased opening (Text.words op.opening))
    (depth : Nat) (ws : Words) :
    readWithin vocabulary (depth + 1) (opening ++ ws) = (do
      let (operand, rest) ← readWithin vocabulary depth ws
      return (.unary op operand, rest)) := by
  have missed := eat_opening (by cases op <;> decide) h ws
  have clashes : ∀ other ∈ binaryOps, Words.Clashes (Text.words other.opening) (Text.words op.opening) := by
    cases op <;> decide
  have noBinary : eatOpening BinaryOp.opening binaryOps (opening ++ ws) = none :=
    eatOpening_eq_none_of_clashes clashes h ws
  have found : eatOpening UnaryOp.opening unaryOps (opening ++ ws) = some (op, ws) :=
    eatOpening_cased (by cases op <;> decide) (by cases op <;> decide) (by cases op <;> decide) h ws
  rw [readWithin, missed "nothing" (by decide), missed "zero" (by decide), missed "twice" (by decide)]
  dsimp only [HOrElse.hOrElse, OrElse.orElse, Option.orElse]
  rw [noBinary, found]

omit hv in
theorem readWithin_twice_cased {w : String} (h : Text.same w "twice" = true) (depth : Nat) (ws : Words) :
    readWithin vocabulary (depth + 1) (w :: ws) = (do
      let (operand, rest) ← readWithin vocabulary depth ws
      return (.twice operand, rest)) := by
  have missed : ∀ word ∈ ["nothing", "zero"], Words.eat word (w :: ws) = none := by
    have apart : ∀ word ∈ ["nothing", "zero"], Text.same "twice" word = false := by decide
    exact fun word hword => Words.eat_eq_none (by rw [Text.same_congr h]; exact apart word hword) ws
  rw [readWithin, missed "nothing" (by decide), missed "zero" (by decide), Words.eat_eq_some h]
  rfl

/-! ## The whole phrase -/

/-- **Phrases delimit themselves, however they are spelled.** -/
theorem readWithin_spelled {phrase heard : NounPhrase} {ws : Words} (hs : phrase.Spelled ws heard)
    (h : phrase.Over vocabulary.lexicon vocabulary.cast.names) {depth : Nat} (hd : ws.length ≤ depth) (rest : Words) :
    readWithin vocabulary depth (ws ++ rest) = .ok (heard, rest) := by
  induction hs generalizing depth rest with
  | nothing hzero hw =>
    obtain ⟨d, rfl⟩ := Nat.exists_eq_add_of_le' hd
    exact readWithin_zero hzero hw d rest
  | bare hws hw =>
    obtain ⟨⟨polarity, hn⟩, ha⟩ := h
    rw [List.length_append, List.length_singleton] at hd
    obtain ⟨d, rfl⟩ := Nat.exists_eq_add_of_le' (Nat.le_of_add_left_le hd)
    rw [List.append_assoc, List.singleton_append]
    exact readWithin_bare hv ha hn hws hw d rest
  | noun harticle hsame hws hw =>
    obtain ⟨⟨polarity, hn⟩, ha⟩ := h
    obtain ⟨d, rfl⟩ := Nat.exists_eq_add_of_le' (Nat.le_of_add_left_le hd)
    rw [List.cons_append, List.append_assoc, List.singleton_append]
    exact readWithin_article hv ha hn hws hw harticle hsame d rest
  | pronoun hw =>
    obtain ⟨role, hword⟩ := h
    obtain ⟨d, rfl⟩ := Nat.exists_eq_add_of_le' hd
    exact readWithin_pronoun_cased hv hword hw d rest
  | @name called ws hws =>
    have hpos : 0 < ws.length := by
      rw [hws.length_eq]
      exact List.length_pos_iff.2 (hv.name_words called h).1
    obtain ⟨d, rfl⟩ := Nat.exists_eq_add_of_le' (Nat.lt_of_lt_of_le hpos hd)
    exact readWithin_name_cased hv h hws d rest
  | @binary lhs rhs lhs' rhs' opening ws vs w op hopening _ hand _ ihl ihr =>
    obtain ⟨hl, hr⟩ := h
    have hpos : 0 < opening.length := by
      rw [hopening.length_eq]
      cases op <;> decide
    rw [List.length_append, List.length_append, List.length_cons] at hd
    obtain ⟨d, rfl⟩ : ∃ d, depth = d + 1 := ⟨depth - 1, by omega⟩
    have left : readWithin vocabulary d (ws ++ w :: (vs ++ rest)) = .ok (lhs', _) := ihl hl (by omega) _
    have right : readWithin vocabulary d (vs ++ rest) = .ok (rhs', rest) := ihr hr (by omega) rest
    have found : Words.expect PhraseError.mismatch "and" (w :: (vs ++ rest)) = .ok (vs ++ rest) := by
      rw [Words.expect, Words.eat_eq_some hand]
    rw [List.append_assoc, List.append_assoc, List.cons_append, readWithin_binary_cased op hopening, left]
    simp only [bind, Except.bind, found, right]
    rfl
  | @unary operand operand' opening ws op hopening _ ih =>
    have hpos : 0 < opening.length := by
      rw [hopening.length_eq]
      cases op <;> decide
    rw [List.length_append] at hd
    obtain ⟨d, rfl⟩ : ∃ d, depth = d + 1 := ⟨depth - 1, by omega⟩
    have inner : readWithin vocabulary d (ws ++ rest) = .ok (operand', rest) := ih h (by omega) rest
    rw [List.append_assoc, readWithin_unary_cased op hopening, inner]
    rfl
  | @twice operand operand' w ws hw _ ih =>
    rw [List.length_cons] at hd
    obtain ⟨d, rfl⟩ : ∃ d, depth = d + 1 := ⟨depth - 1, by omega⟩
    have inner : readWithin vocabulary d (ws ++ rest) = .ok (operand', rest) := ih h (by omega) rest
    rw [List.cons_append, readWithin_twice_cased hw, inner]
    rfl

end Steps

end Phrase

/-! ## The standard vocabulary -/

open Lexicon

theorem standard_phraseWords_unlisted : ∀ word ∈ Words.particles ++ Phrase.articles ++ Phrase.secondWords,
    Text.lowercase word = word ∧ Text.lowercase "I" ≠ word ∧ ∀ entry ∈ standard.entries, entry.1 ≠ word := by
  decide +kernel

/-- **With the standard vocabulary phrases delimit themselves.** -/
theorem Vocabulary.delimiting_of_standard {vocabulary : Vocabulary} (hl : vocabulary.lexicon = standard)
    (hn : ∀ name ∈ vocabulary.cast.names, name ∈ standardCast) : vocabulary.Delimiting where
  toReadable := readable_of_standard hl hn
  unlisted := by
    rw [hl]
    intro word hword
    obtain ⟨small, notI, missing⟩ := standard_phraseWords_unlisted word hword
    exact standard_classify_eq_none small notI missing
  names_unlisted := by
    rw [hl]
    exact fun name h => (standard_names_unlisted name (hn name h)).1
  articles_apart := fun name h => (standard_names_unlisted name (hn name h)).2

namespace Phrase

/-- **Noun phrases are self-delimiting in every spelling.** Take the standard lexicon and a cast that was given names
from it, a phrase made of the nouns, adjectives and pronouns of the lexicon and of those names, and any spelling of it.
Whatever words come behind: the phrase is read, with its nouns and adjectives in small letters and its pronouns as
written, and exactly those words are left. -/
theorem read_spelled {cast : Cast} (hcast : (Cast.ofLexicon standard).Grows cast) {phrase heard : NounPhrase}
    (hphrase : phrase.Over standard cast.names) {ws : Words} (hspelled : phrase.Spelled ws heard) (rest : Words) :
    read (Vocabulary.of standard cast) (ws ++ rest) = .ok (heard, rest) := by
  have delimiting : (Vocabulary.of standard cast).Delimiting :=
    Vocabulary.delimiting_of_standard rfl (Cast.drawn_of_grows hcast).named
  exact readWithin_spelled delimiting hspelled hphrase (by simp) rest

/-- operators within operators, and capitals where the tables have none; only the pronoun keeps them -/
theorem read_spelled_difference :
    let cast : Cast := ⟨standardCast.drop 1, [(⟨"guest"⟩, "Romeo")]⟩
    let spelling : Words := ["THE", "Difference", "between", "Thy", "BIG", "angel", "and", "Twice", "the", "sum", "of",
      "ROMEO", "and", "Thee"]
    let phrase (word : String) : NounPhrase :=
      .binary .sub (.noun ["big"] "angel") (.twice (.binary .add (.name "Romeo") (.pronoun word)))
    (Cast.ofLexicon standard).Grows cast ∧ (phrase "thee").Over standard cast.names ∧
      (phrase "thee").Spelled spelling (phrase "Thee") ∧
      read (Vocabulary.of standard cast) (spelling ++ ["and", "zero"]) = .ok (phrase "Thee", ["and", "zero"]) := by
  intro cast spelling phrase
  have named : (Cast.ofLexicon standard).allocate ⟨"guest"⟩ = .ok ("Romeo", cast) := rfl
  have grown := (Cast.Grows.refl _).allocate named
  have listed : (phrase "thee").Over standard cast.names := by
    have angel : ("angel", .noun .positive) ∈ standard.entries := mem_entries_noun.2 (by decide)
    have big : ("big", .adjective .neutral) ∈ standard.entries := mem_entries_adjective.2 (by decide)
    have thee : ("thee", .pronoun .addressee) ∈ standard.entries :=
      mem_entries_pronoun.2 ⟨⟨"thou", "thee", "thyself", "art"⟩, by decide, by decide⟩
    refine ⟨⟨⟨_, angel⟩, fun adjective h => ?_⟩, List.mem_singleton_self _, _, thee⟩
    rw [List.mem_singleton.1 h]
    exact ⟨_, big⟩
  have angel : NounPhrase.Spelled (.noun ["big"] "angel") (["Thy", "BIG"] ++ ["angel"]) (.noun ["big"] "angel") :=
    @NounPhrase.Spelled.noun ["big"] ["BIG"] "angel" "angel" "thy" "Thy" (by decide) (by decide) (by decide) (by decide)
  have sum : NounPhrase.Spelled (.binary .add (.name "Romeo") (.pronoun "thee"))
      (["the", "sum", "of"] ++ (["ROMEO"] ++ "and" :: ["Thee"])) (.binary .add (.name "Romeo") (.pronoun "Thee")) :=
    .binary .add (by decide) (.name (by decide)) (by decide) (.pronoun (by decide))
  have spelled : (phrase "thee").Spelled spelling (phrase "Thee") :=
    @NounPhrase.Spelled.binary _ _ _ _ ["THE", "Difference", "between"] _ _ "and" .sub (by decide) angel (by decide)
      (.twice (by decide : Text.same "Twice" "twice" = true) sum)
  exact ⟨grown, listed, spelled, read_spelled grown listed spelled _⟩

end Phrase

end Playscript
