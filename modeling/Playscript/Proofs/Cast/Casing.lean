/-
Names in another letter case.

A cast finds the character of a name by its small letters, those of every script. Whatever reads a name off a text
leaves the case of ASCII letters aside and no other.

- `Text.Unbroken`: a text without blanks and marks, which is one word for every reader; what is the same in small
  letters is like that too (`unbroken_of_lowercase`);
- `Cast.Called`: a word that a cast takes for the name of one of its characters, the name being such a text;
- `Called.eatLongest`, `Called.speaker?`: phrases and directions, and the lines of a play, know the word exactly if it
  is the name up to the case of ASCII letters;
- `Called.restore`: and if it is, it is restored to the placeholder of the character;
- `names_read_iff_same`: so each of the readers hears the character.
-/
import Playscript.Proofs.Cast.Recognizing
import Playscript.Proofs.Phrase.Delimiting
import Playscript.Proofs.Play.Continuing
import Playscript.Proofs.Sentence.Directions
import Playscript.Proofs.Text.Single

namespace Playscript

/-! ## Unbroken texts -/

namespace Text

/-- the code points of the blanks, and of the marks that some reader looks for at the end of a word -/
def breakCodes : List Nat := blankCodes ++ [',', '.', '!', '?', '[', ']'].map Char.toNat

theorem unreached_breakCodes : Unreached breakCodes := by
  constructor <;> decide +kernel

theorem breakCodes_caseless : ∀ code ∈ breakCodes, smallForm (Char.ofNat code) = [Char.ofNat code] ∧
    Char.ofNat code ≠ 'Σ' ∧ isAlphanumeric (Char.ofNat code) = false := by decide +kernel

/-- there is no blank and no mark in a text -/
def Unbroken (cs : List Char) : Prop := ∀ c ∈ cs, c.toNat ∉ breakCodes

theorem unbroken_of_alphanumeric {cs : List Char} (h : ∀ c ∈ cs, isAlphanumeric c = true) : Unbroken cs := by
  intro c hc hcode
  obtain ⟨-, -, hletter⟩ := breakCodes_caseless c.toNat hcode
  rw [Char.ofNat_toNat, h c hc] at hletter
  cases hletter

section Unbroken

variable {cs : List Char} (h : Unbroken cs)
include h

theorem Unbroken.solid : Solid cs := by
  intro c hc
  refine Bool.eq_false_iff.2 fun hblank => h c hc ?_
  exact List.mem_append_left _ (toNat_mem_blankCodes hblank)

theorem Unbroken.mark {c : Char} (hc : c ∈ cs) : c ∉ [',', '.', '!', '?', '[', ']'] := by
  intro hmark
  exact h c hc (List.mem_append_right _ (List.mem_map_of_mem hmark))

theorem Unbroken.isTerminator {c : Char} (hc : c ∈ cs) : isTerminator c = false := by
  have hmark := h.mark hc
  simp only [List.mem_cons, List.not_mem_nil, or_false, not_or] at hmark
  simp [Playscript.isTerminator, hmark]

theorem Unbroken.head?_ne : cs.head? ≠ some '[' := by
  intro hopen
  exact absurd (h.mark (List.mem_of_head? hopen)) (by simp)

end Unbroken

/-- a character without case stays when letters are made small -/
theorem mem_lowercaseFrom {c : Char} {cs : List Char} (hc : c ∈ cs) (hsmall : smallForm c = [c]) (hsigma : c ≠ 'Σ')
    (before : List Char) : c ∈ lowercaseFrom before cs := by
  induction cs generalizing before with
  | nil => cases hc
  | cons d cs ih =>
    rw [lowercaseFrom]
    rcases List.mem_cons.1 hc with rfl | hc
    · simp [hsmall, hsigma]
    · exact List.mem_append_right _ (ih hc _)

/-- **What is the same in small letters is broken at none or both.** -/
theorem unbroken_of_lowercase {a b : String} (h : lowercase a = lowercase b) (hb : b.toList ≠ [] ∧ Unbroken b.toList) :
    a.toList ≠ [] ∧ Unbroken a.toList := by
  have small : lowercaseFrom [] a.toList = lowercaseFrom [] b.toList := String.ofList_injective h
  refine ⟨fun hnil => ?_, fun c hc hcode => ?_⟩
  · obtain ⟨d, ds, hds⟩ := List.exists_cons_of_ne_nil hb.1
    rw [hnil, hds] at small
    exact lowercaseFrom_ne_nil [] d ds small.symm
  · obtain ⟨hsmall, hsigma, -⟩ := breakCodes_caseless c.toNat hcode
    rw [Char.ofNat_toNat] at hsmall hsigma
    have hmem := mem_lowercaseFrom hc hsmall hsigma []
    rw [small] at hmem
    obtain ⟨d, hd, hbroken⟩ := unreached_breakCodes.of_lowercaseFrom hmem hcode
    exact hb.2 d hd hbroken

theorem length_eq_of_same {a b : String} (h : same a b = true) : a.toList.length = b.length := by
  rw [← String.length_toList]
  exact length_eq_of_sameFolded h

theorem words_unbroken {word : String} (h : word.toList ≠ [] ∧ Unbroken word.toList) : words word = [word] := by
  obtain ⟨c, cs, hcs⟩ := List.exists_cons_of_ne_nil h.1
  have solid := h.2.solid
  rw [hcs] at solid
  rw [words, hcs, splitBlank_of_solid solid, List.map_singleton, ← hcs, String.ofList_toList]

theorem ofBody_unbroken {word : String} (h : word.toList ≠ [] ∧ Unbroken word.toList) :
    Words.ofBody word = [word] := by
  apply Words.ofBody_single h.1 h.2.solid
  intro hcomma
  exact absurd (h.2.mark (List.mem_of_getLast? hcomma)) (by simp)

theorem endsPlain_unbroken {word : String} (h : word.toList ≠ [] ∧ Unbroken word.toList) :
    Direction.EndsPlain word := by
  obtain ⟨c, hc⟩ := Option.isSome_iff_exists.1 (List.getLast?_isSome.2 h.1)
  have hmem := List.mem_of_getLast? hc
  refine ⟨c, hc, h.2.solid c hmem, h.2.isTerminator hmem, ?_⟩
  rintro rfl
  exact absurd (h.2.mark hmem) (by simp)

end Text

/-! ## Words that come next -/

/-- a phrase that is neither an operator's nor a name's is no name -/
theorem Phrase.readPlain_ne_name {lexicon : Lexicon} {ws rest : Words} {name : String} :
    readPlain lexicon ws ≠ .ok (.name name, rest) := by
  intro h
  unfold readPlain at h
  split at h
  · cases h
  · obtain ⟨⟨⟨adjectives, noun⟩, left⟩, -, hanswer⟩ := bind_eq_ok.1 h
    cases hanswer

/-- a phrase that comes next in a text of one word is one word, and the same -/
theorem Words.eatPhrase_word {phrase w : String} {rest : Words} (h : eatPhrase phrase [w] = some rest) :
    ∃ part, Text.words phrase = [part] ∧ Text.same w part = true ∧ rest = [] := by
  obtain ⟨hne, front, hfront, hcased⟩ := eatPhrase_eq_some_iff.1 h
  match front with
  | [] => exact absurd (List.forall₂_nil_left_iff.1 hcased) hne
  | first :: others =>
    obtain ⟨rfl, hnil⟩ := List.cons.inj hfront
    obtain ⟨rfl, rfl⟩ := List.append_eq_nil_iff.1 hnil.symm
    obtain ⟨part, hwords, hsame⟩ := Cased.singleton hcased
    exact ⟨part, hwords, hsame, rfl⟩

/-! ## Characters called by a word -/

namespace Cast

/-- the cast of a play takes `w` for the name of one of its characters, and the name is one word for every reader -/
structure Called (cast : Cast) (name w : String) : Prop where
  recovered : cast.Recovered
  named : name ∈ cast.names
  unbroken : name.toList ≠ [] ∧ Text.Unbroken name.toList
  small : Text.lowercase w = Text.lowercase name

/-- no two names of a play have one identifier -/
theorem Recovered.eq_of_identifier {cast : Cast} (h : cast.Recovered) {a b : String} (ha : a ∈ cast.names)
    (hb : b ∈ cast.names) (heq : identifierFor a = identifierFor b) : a = b := by
  obtain ⟨first, hfirst, rfl⟩ := List.mem_map.1 ha
  obtain ⟨second, hsecond, rfl⟩ := List.mem_map.1 hb
  refine congrArg Prod.snd (List.inj_on_of_nodup_map h.once hfirst hsecond ?_)
  rw [h.derived _ _ hfirst, h.derived _ _ hsecond, heq]

namespace Called

variable {cast : Cast} {name w : String} (h : cast.Called name w)
include h

theorem word : w.toList ≠ [] ∧ Text.Unbroken w.toList := Text.unbroken_of_lowercase h.small h.unbroken

/-- no other name has the same small letters -/
theorem eq_of_small {other : String} (hother : other ∈ cast.names) (hsmall : Text.lowercase other = Text.lowercase w) :
    other = name :=
  h.recovered.eq_of_identifier hother h.named (identifierFor_congr (hsmall.trans h.small))

/-- **Phrases and directions hear the name in the word** exactly if it is the name up to the case of ASCII letters. -/
theorem eatLongest : Words.eatLongest cast.names [w] = if Text.same w name then some (name, []) else none := by
  -- a name that comes next is one word, so it has the small letters of `w` for an identifier
  have only : ∀ {other rest}, other ∈ cast.names → Words.eatPhrase other [w] = some rest → other = name := by
    intro other rest hother heat
    obtain ⟨part, hpart, hsame, -⟩ := Words.eatPhrase_word heat
    apply h.recovered.eq_of_identifier hother h.named
    rw [identifierFor, identifierFor, hpart, Text.words_unbroken h.unbroken, List.map_singleton, List.map_singleton,
      ← Text.lowercase_congr hsame, h.small]
  have words := Text.words_unbroken h.unbroken
  split_ifs with hsame
  · apply Words.eatLongest_eq_some h.named
    · simp [Words.eatPhrase, words, Words.eatAll, Words.eat, hsame]
    · intro other hother hne
      exact Option.eq_none_iff_forall_ne_some.2 fun rest heat => hne (only hother heat)
  · apply Words.eatLongest_eq_none
    intro other hother
    refine Option.eq_none_iff_forall_ne_some.2 fun rest heat => hsame ?_
    obtain ⟨part, hpart, hword, -⟩ := Words.eatPhrase_word heat
    rw [only hother heat, words] at hpart
    cases hpart
    exact hword

/-- **A play hears the name in the word** in the same case. -/
theorem speaker? {play : Play} (hpersonae : play.personae.map (·.name) = cast.names) :
    play.speaker? w = if Text.same w name then some name else none := by
  have member : ∀ persona ∈ play.personae, persona.name ∈ cast.names := by
    intro persona hpersona
    exact hpersonae ▸ List.mem_map_of_mem hpersona
  have apart : NamesApart play.personae := by
    intro persona hpersona other hother hsame
    exact h.recovered.eq_of_identifier (member _ hother) (member _ hpersona)
      (identifierFor_congr (Text.lowercase_congr hsame))
  split_ifs with hsame
  · have alike : ∀ persona : Persona, Text.same persona.name w = Text.same persona.name name := fun persona =>
      Text.same_congr_right hsame persona.name
    simp only [Play.speaker?, alike]
    exact find?_of_mem apart (hpersonae ▸ h.named)
  · rw [Play.speaker?, Option.map_eq_none_iff, List.find?_eq_none]
    intro persona hpersona hword
    apply hsame
    rw [← h.eq_of_small (member _ hpersona) (Text.lowercase_congr hword), Text.same_comm]
    exact hword

/-! ## Readers -/

/-- a phrase that is the word is the name, if the word is no particle of phrases -/
theorem read_iff {vocabulary : Vocabulary} (hcast : vocabulary.cast = cast)
    (unlisted : Text.lowercase name ∉ Words.particles) :
    Phrase.read vocabulary (Words.ofText w) = .ok (.name name, []) ↔ Text.same w name = true := by
  have plain : ∀ particle ∈ Words.particles, Text.same w particle = false := by
    intro particle hparticle
    have small : ∀ particle ∈ Words.particles, Text.lowercase particle = particle := by decide
    refine Bool.eq_false_iff.2 fun hsame => unlisted ?_
    rw [← h.small, Text.lowercase_congr hsame, small particle hparticle]
    exact hparticle
  have words : Words.ofText w = [w] := by
    rw [Words.ofText_unmarked fun c hc => h.word.2.isTerminator hc, Text.ofBody_unbroken h.word]
  rw [words, Phrase.read, List.length_singleton, Phrase.readWithin_of_plain vocabulary plain, hcast, h.eatLongest]
  split_ifs with hsame
  · simp [hsame]
  · simp only [hsame, Bool.false_eq_true, iff_false]
    exact Phrase.readPlain_ne_name

/-- so it is in a direction -/
theorem parse_exit_iff {id : Ident} (hid : cast.identOf w = some id) :
    Direction.parse cast ("Exit " ++ w) = .ok (.exit id) ↔ Text.same w name = true := by
  have known : cast.identOf name = some id := by rwa [identOf, ← h.small]
  have words := (Direction.directionWords_verb (show "Exit".toList.head? = some 'E' from rfl) (by decide) (by decide)
    (Text.endsPlain_unbroken h.word).closes).1
  have verb : Words.ofBody "Exit" = ["Exit"] := by decide
  have text : "Exit" ++ " " ++ w = "Exit " ++ w := by simp
  rw [verb, Text.ofBody_unbroken h.word, List.singleton_append, text] at words
  rw [Direction.parse_of_exit words, Direction.readName, h.eatLongest]
  by_cases hsame : Text.same w name = true
  · simp only [hsame, if_true, known, bind, Except.bind, iff_true]
    rfl
  · simp only [hsame, Bool.false_eq_true, if_false, iff_false]
    intro hparse
    cases hparse

/-- no name but this one stands in the word -/
theorem nameAt?_word {id : Ident} (hid : (id, name) ∈ cast.members) (hsame : Text.same w name = true) :
    nameAt? cast.byLength w.toList = some (id, name) := by
  have folded : Text.foldCase w.toList = Text.foldCase name.toList := Text.sameFolded_iff.1 hsame
  have listed : (id, name) ∈ cast.byLength := by
    refine mem_byLength.2 ⟨hid, fun hempty => h.unbroken.1 ?_⟩
    rw [show name = "" from hempty]
    rfl
  have stands : standsAt w.toList name.toList = true := by
    rw [standsAt_congr folded]
    exact standsAt_iff.2 ⟨by rw [List.take_length], fun c hc => by rw [List.drop_length] at hc; cases hc⟩
  cases hfound : nameAt? cast.byLength w.toList with
  | none => exact absurd stands (by simpa using List.find?_eq_none.1 hfound _ listed)
  | some member =>
    have hmember := mem_byLength.1 (List.mem_of_find?_eq_some hfound)
    have hstands : standsAt w.toList member.2.toList = true := by simpa using List.find?_some hfound
    have longest : name.length ≤ member.2.length := longest_of_nameAt? hfound listed stands
    have within := length_take_of_standsAt hstands
    rw [List.length_take, Text.length_eq_of_same hsame] at within
    have equal : member.2.length = name.length := by omega
    exact congrArg some (eq_of_standsAt h.recovered.drawn.apart hid hmember.1 equal stands hstands)

/-- **The name is restored** wherever phrases and directions hear it. -/
theorem restore {id : Ident} (hid : (id, name) ∈ cast.members) (hsame : Text.same w name = true) :
    cast.restore w = String.ofList (Template.placeholderText id) := by
  have found := h.nameAt?_word hid hsame
  have length := Text.length_eq_of_same hsame
  obtain ⟨c, cs, hcs⟩ := List.exists_cons_of_ne_nil h.word.1
  rw [hcs] at found length
  -- the name takes up all of the text
  have behind : cs.drop (name.length - 1) = [] := by
    apply List.drop_eq_nil_of_le
    rw [← length, List.length_cons]
    omega
  rw [Cast.restore, hcs, restoreFrom, if_neg Bool.false_ne_true, found]
  dsimp only
  rw [behind, restoreFrom, List.append_nil]

end Called

/-- whoever has a word for a name in some letter case is called by it -/
theorem Recovered.called {cast : Cast} (h : cast.Recovered) {id : Ident} {name w : String}
    (hmember : (id, name) ∈ cast.members) (hunbroken : name.toList ≠ [] ∧ Text.Unbroken name.toList)
    (hw : cast.identOf w = some id) : cast.Called name w := by
  refine ⟨h, mem_names hmember, hunbroken, ?_⟩
  obtain ⟨⟨found, other⟩, hfind, rfl⟩ := Option.map_eq_some_iff.1 hw
  have hother := List.mem_of_find?_eq_some hfind
  have hsmall : Text.lowercase other = Text.lowercase w := by simpa using List.find?_some hfind
  have heq := List.inj_on_of_nodup_map h.once hother hmember rfl
  cases heq
  exact hsmall.symm

end Cast

/-- **Who is heard in another letter case.** Let a cast have been recovered from the names of a play, and let one of
them be a word of letters that opens no phrase. Of the words that the cast takes for the name, in whatever letter case, a
phrase, a direction and the line that announces a speech hear it in exactly those that differ from it in the case of
ASCII letters only. These are also restored to the placeholder of the character, and what follows the line that announces
the speech is read as below the name itself. -/
theorem names_read_iff_same {vocabulary : Vocabulary} {names : List String} {id : Ident} {name w : String}
    (recovered : Cast.recover names = .ok vocabulary.cast) (member : (id, name) ∈ vocabulary.cast.members)
    (nonempty : name ≠ "") (letters : ∀ c ∈ name.toList, Text.isAlphanumeric c = true)
    (unlisted : Text.lowercase name ∉ Words.particles) (known : vocabulary.cast.identOf w = some id) :
    (Phrase.read vocabulary (Words.ofText w) = .ok (.name name, []) ↔ Text.same w name = true) ∧
    (Direction.parse vocabulary.cast ("Exit " ++ w) = .ok (.exit id) ↔ Text.same w name = true) ∧
    (Text.same w name = true → vocabulary.cast.restore w = String.ofList (Template.placeholderText id)) ∧
    ∀ before play, Play.parse before = .ok play → play.personae.map (·.name) = names → play.InScene →
      (Play.parse (before ++ "\n" ++ (w ++ ":")) = .ok (play.addLine (.speech name [])) ↔ Text.same w name = true) ∧
      (Text.same w name = true → ∀ after, Play.parse (before ++ "\n" ++ (w ++ ":\n" ++ after)) =
        Play.parse (before ++ "\n" ++ (name ++ ":\n" ++ after))) := by
  have nonempty : name.toList ≠ [] := fun hnil => nonempty (String.toList_eq_nil_iff.1 hnil)
  have unbroken := And.intro nonempty (Text.unbroken_of_alphanumeric letters)
  have called := (Cast.recovered_of_recover recovered).called member unbroken known
  have itself : vocabulary.cast.Called name name := { called with small := rfl }
  refine ⟨called.read_iff rfl unlisted, called.parse_exit_iff known, called.restore member, ?_⟩
  intro before play hparse hnames hin
  have hpersonae : play.personae.map (·.name) = vocabulary.cast.names := by
    rw [hnames, (Cast.identifiers_of_recover recovered).1]
  have speaker := called.speaker? hpersonae
  obtain ⟨last, n, paused⟩ := Play.exists_paused hparse
  have line := Play.parse_announcing paused hin called.word.2.solid called.word.2.head?_ne
  refine ⟨?_, fun hsame after => ?_⟩
  · rw [line, speaker]
    by_cases hsame : Text.same w name = true
    · simp [hsame]
    · simp [hsame]
  · have speaks := itself.speaker? hpersonae
    rw [if_pos hsame] at speaker
    rw [if_pos (Text.same_refl name)] at speaks
    exact Play.parse_announced hparse hin called.word.2.solid called.word.2.head?_ne unbroken.2.solid
      unbroken.2.head?_ne speaker speaks

/-- the cast of a play with these two -/
def sisters : Cast := ⟨[], [(⟨"élodie"⟩, "Élodie"), (⟨"kate"⟩, "Kate")]⟩

/-- the text of a play that the two are about to begin -/
def visit : String := "The Visit\n\nÉlodie, a guest.\nKate, a host.\n\nAct I: Noon.\n\nScene I: A gate."

def visitPlay : Play :=
  ⟨"The Visit", [⟨"Élodie", "a guest."⟩, ⟨"Kate", "a host."⟩], [⟨"I", "Noon.", [⟨"I", "A gate.", []⟩]⟩]⟩

theorem parse_visit : Play.parse visit = .ok visitPlay ∧ visitPlay.InScene :=
  ⟨eq_ok_of_toOption (by decide +kernel), _, rfl, by decide⟩

theorem names_read_iff_same_capitals :
    Cast.recover ["Élodie", "Kate"] = .ok sisters ∧ sisters.identOf "ÉLODie" = some ⟨"élodie"⟩ ∧
      Phrase.read (.of Lexicon.standard sisters) (Words.ofText "ÉLODie") = .ok (.name "Élodie", []) ∧
      Direction.parse sisters "Exit ÉLODie" = .ok (.exit ⟨"élodie"⟩) ∧ sisters.restore "ÉLODie" = "\x7bélodie\x7d" ∧
      Play.parse visit = .ok visitPlay ∧
      Play.parse (visit ++ "\n" ++ ("ÉLODie" ++ ":")) = .ok (visitPlay.addLine (.speech "Élodie" [])) := by
  have recovered : Cast.recover ["Élodie", "Kate"] = .ok (Vocabulary.of Lexicon.standard sisters).cast :=
    eq_ok_of_toOption (by decide +kernel)
  have member : ((⟨"élodie"⟩ : Ident), "Élodie") ∈ sisters.members := List.mem_cons_self
  have known : sisters.identOf "ÉLODie" = some ⟨"élodie"⟩ := by decide +kernel
  have letters : ∀ c ∈ "Élodie".toList, Text.isAlphanumeric c = true := List.all_eq_true.1 (by decide +kernel)
  have same : Text.same "ÉLODie" "Élodie" = true := by decide
  obtain ⟨read, exits, restored, speaks⟩ :=
    names_read_iff_same recovered member (by decide) letters (by decide +kernel) known
  obtain ⟨hparse, inside⟩ := parse_visit
  exact ⟨recovered, known, read.2 same, exits.2 same, restored same, hparse,
    (speaks visit visitPlay hparse rfl inside).1.2 same⟩

/-- with a small accented letter where the name has a capital one, the cast knows the name and no reader does -/
theorem names_read_accented :
    Cast.recover ["Élodie", "Kate"] = .ok sisters ∧ sisters.identOf "élodie" = some ⟨"élodie"⟩ ∧
      (Phrase.read (.of Lexicon.standard sisters) (Words.ofText "élodie")).toOption = none ∧
      (Direction.parse sisters "Exit élodie").toOption = none ∧
      (Play.parse visit = .ok visitPlay ∧ visitPlay.InScene) ∧
      (Play.parse (visit ++ "\n" ++ ("élodie" ++ ":"))).toOption = none :=
  ⟨eq_ok_of_toOption (by decide +kernel), by decide +kernel, by decide +kernel, by decide +kernel, parse_visit,
    by decide +kernel⟩

end Playscript
