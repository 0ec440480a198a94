/-
Stage directions are understood as they were meant.

- `ClosesPlain`: a text whose last character, blanks aside, is no mark and no bracket; the words of such a direction are
  read as they stand, with brackets around them or without (`directionWords_verb`);
- `listedWords`: the words of names with commas between them and "and" before the last;
- `readNames_listed`: a list of names is read back as the characters that are heard in them, one by one;
- `parse_composed`: so the text of a direction is parsed as the direction, if its names can be listed and heard;
- `parse_compose_direction`: as those of the standard vocabulary can, under the hearer's identifiers.
-/
import Playscript.Sentence.Direction
import Playscript.Proofs.Sentence.Clauses
import Playscript.Proofs.Text.Single

namespace Playscript

namespace Direction

open Lexicon

/-- the last character of a text is no blank, no mark and no bracket -/
def EndsPlain (s : String) : Prop :=
  ∃ c ∈ s.toList.getLast?, Text.isBlank c = false ∧ isTerminator c = false ∧ c ≠ ']'

/-- the last character of a text that is not blank is no mark and no bracket -/
def ClosesPlain (s : String) : Prop :=
  ∃ front c back, s.toList = front ++ c :: back ∧ Text.Blank back ∧ Text.isBlank c = false ∧ isTerminator c = false ∧
    c ≠ ']'

theorem EndsPlain.closes {s : String} (h : EndsPlain s) : ClosesPlain s := by
  obtain ⟨c, hc, hplain⟩ := h
  obtain ⟨front, hfront⟩ := List.getLast?_eq_some_iff.1 hc
  exact ⟨front, c, [], hfront, nofun, hplain⟩

theorem ClosesPlain.append {t : String} (h : ClosesPlain t) (s : String) : ClosesPlain (s ++ t) := by
  obtain ⟨front, c, back, ht, hplain⟩ := h
  exact ⟨s.toList ++ front, c, back, by rw [String.toList_append, ht, List.append_assoc], hplain⟩

theorem ClosesPlain.getLast? {s : String} (h : ClosesPlain s) :
    ∃ c ∈ (Text.trimChars s.toList).getLast?, isTerminator c = false ∧ c ≠ ']' := by
  obtain ⟨front, c, back, hs, hback, hblank, hplain⟩ := h
  have parts : s.toList = front ++ [c] ++ back := by simp [hs]
  refine ⟨c, ?_, hplain⟩
  rw [parts, Text.trimChars_append_blank _ hback, Text.trimChars_concat _ hblank]
  exact List.getLast?_concat

/-- nothing is dropped from the end of such a text -/
theorem ClosesPlain.ofText {s : String} (h : ClosesPlain s) : Words.ofText s = Words.ofBody s := by
  obtain ⟨c, hc, hmark, -⟩ := h.getLast?
  have kept : Words.dropTerminator (Text.trimChars s.toList) = Text.trimChars s.toList := by
    simp [Words.dropTerminator, Option.mem_def.1 hc, hmark]
  rw [Words.ofText, kept, Text.splitBlank_trimChars, Words.ofBody]

/-- the words that a direction is read from -/
def directionWords (text : String) : Words :=
  Words.ofText (String.ofList (dropBrackets (Text.trimChars text.toList)))

/-- **A direction is read as it stands**, and its brackets are dropped. -/
theorem directionWords_plain {s : String} (h : ClosesPlain s) {first : Char} (hfirst : s.toList.head? = some first)
    (hblank : Text.isBlank first = false) (hbracket : first ≠ '[') :
    directionWords s = Words.ofBody s ∧ directionWords ("[" ++ s ++ "]") = Words.ofBody s := by
  constructor
  · obtain ⟨rest, hs⟩ := List.head?_eq_some_iff.1 hfirst
    have opens : (Text.trimChars s.toList).head? = some first := by
      have keep : Text.dropBlankFront (first :: rest) = first :: rest := by simp [Text.dropBlankFront, hblank]
      rw [hs, Text.trimChars, keep, ← List.nil_append (first :: rest), Text.dropBlankBack_append hblank]
      rfl
    obtain ⟨c, hc, -, hclose⟩ := h.getLast?
    have unbracketed : dropBrackets (Text.trimChars s.toList) = Text.trimChars s.toList := by
      simp [dropBrackets, opens, hbracket, Option.mem_def.1 hc, hclose]
    rw [directionWords, unbracketed, ← h.ofText, Words.ofText, String.toList_ofList, Text.trimChars_trimChars,
      Words.ofText]
  · have bracketed : ("[" ++ s ++ "]").toList = '[' :: (s.toList ++ [']']) := by simp
    have trimmed : Text.trimChars ('[' :: (s.toList ++ [']'])) = '[' :: (s.toList ++ [']']) := by
      refine Text.trimChars_eq_self (by decide) ?_ (by decide : Text.isBlank ']' = false)
      rw [← List.cons_append, List.getLast?_concat]
    have unbracketed : dropBrackets ('[' :: (s.toList ++ [']'])) = s.toList := by simp [dropBrackets]
    rw [directionWords, bracketed, trimmed, unbracketed, String.ofList_toList, h.ofText]

/-- a direction that is a verb and a text after it, with or without brackets -/
theorem directionWords_verb {verb : String} {first : Char} (hfirst : verb.toList.head? = some first)
    (hblank : Text.isBlank first = false) (hbracket : first ≠ '[') {text : String} (h : ClosesPlain text) :
    directionWords (verb ++ " " ++ text) = Words.ofBody verb ++ Words.ofBody text ∧
      directionWords ("[" ++ (verb ++ " " ++ text) ++ "]") = Words.ofBody verb ++ Words.ofBody text := by
  have hhead : (verb ++ " " ++ text).toList.head? = some first := by
    obtain ⟨rest, hs⟩ := List.head?_eq_some_iff.1 hfirst
    simp [hs]
  rw [← Words.ofBody_append_space]
  exact directionWords_plain (h.append _) hhead hblank hbracket

/-! ## Lists of names -/

/-- a name whose words stay together in a list, and that ends nothing -/
structure Listable (name : String) : Prop where
  nonempty : Text.words name ≠ []
  words : Words.ofBody name = Text.words name
  listed : Words.ofBody (name ++ ",") = Text.words name ++ [","]
  closes : ClosesPlain name

theorem listable_of_standard {name : String} (h : name ∈ standardCast) : Listable name where
  nonempty := (standard_names.words name h).1
  words := (standard_names.words name h).2
  listed := standard_names.listed name h
  closes := EndsPlain.closes (standard_names.ends name h)

/-- the words of names with commas between them, and "and" before the last -/
def listedWords : List String → Words
  | [] => []
  | [name] => Text.words name
  | [first, last] => Text.words first ++ "and" :: Text.words last
  | first :: rest => Text.words first ++ "," :: listedWords rest

theorem ofBody_listed {names : List String} (h : ∀ name ∈ names, Listable name) :
    Words.ofBody (listed names) = listedWords names := by
  induction names with
  | nil => decide
  | cons first rest ih =>
    have hfirst := h first List.mem_cons_self
    have hrest := ih fun name hname => h name (List.mem_cons_of_mem _ hname)
    match rest with
    | [] => exact hfirst.words
    | [last] =>
      have hlast := h last (by simp)
      rw [listed, Words.ofBody_append_and, hfirst.words, hlast.words]
      rfl
    | second :: third :: more =>
      have text : listed (first :: second :: third :: more) =
          first ++ "," ++ " " ++ listed (second :: third :: more) := by
        rw [listed] <;> simp [← String.toList_inj]
      rw [text, Words.ofBody_append_space, hfirst.listed, hrest, List.append_assoc]
      rfl

theorem closesPlain_listed {names : List String} (h : ∀ name ∈ names, Listable name) (hne : names ≠ []) :
    ClosesPlain (listed names) := by
  induction names with
  | nil => exact absurd rfl hne
  | cons first rest ih =>
    have hrest := ih fun name hname => h name (List.mem_cons_of_mem _ hname)
    match rest with
    | [] => exact (h first List.mem_cons_self).closes
    | [last] => exact (h last (by simp)).closes.append _
    | second :: third :: more =>
      rw [listed]
      · exact (hrest (by simp)).append _
      · simp
      · simp

/-- after the first name comes a separator and the list of the others -/
theorem listedWords_cons (first : String) {rest : List String} (h : rest ≠ []) :
    ∃ separator, (separator = "," ∨ separator = "and") ∧
      listedWords (first :: rest) = Text.words first ++ separator :: listedWords rest := by
  match rest with
  | [last] => exact ⟨"and", .inr rfl, rfl⟩
  | second :: third :: more => exact ⟨",", .inl rfl, rfl⟩

/-! ## Reading names -/

/-- a name is read as this character where it ends a list or a separator follows it -/
def HeardAs (cast : Cast) (name : String) (id : Ident) : Prop :=
  ∀ rest : Words, (∀ next ∈ rest.head?, next = "," ∨ next = "and") →
    readName cast (Text.words name ++ rest) = .ok (id, rest)

/-- names after a separator are read as the characters that are heard in them, given time enough -/
theorem readMoreNames_listed {cast : Cast} {names : List String} {ids : List Ident}
    (h : List.Forall₂ (HeardAs cast) names ids) (hne : names ≠ []) {separator : String}
    (hsep : separator = "," ∨ separator = "and") {count : Nat} (hcount : (listedWords names).length < count) :
    readMoreNames cast count (separator :: listedWords names) = .ok ids := by
  induction h generalizing separator count with
  | nil => exact absurd rfl hne
  | @cons name id rest ids hname hrest ih =>
    obtain ⟨count, rfl⟩ : ∃ k, count = k + 1 := ⟨count - 1, by omega⟩
    have separated : ∀ ws, readSeparator (separator :: ws) = .ok ws := by
      rcases hsep with rfl | rfl <;> exact fun ws => rfl
    by_cases hrestNe : rest = []
    · subst hrestNe
      cases hrest
      have readLast := hname [] nofun
      rw [List.append_nil] at readLast
      simp only [readMoreNames, listedWords, separated, readLast, bind, Except.bind]
      rfl
    · obtain ⟨next, hnext, hwords⟩ := listedWords_cons name hrestNe
      rw [hwords] at hcount ⊢
      have readFirst := hname (next :: listedWords rest) fun _ h => Option.some.inj h ▸ hnext
      have later : readMoreNames cast count (next :: listedWords rest) = .ok ids := by
        refine ih hrestNe hnext ?_
        simp only [List.length_append, List.length_cons] at hcount
        omega
      simp only [readMoreNames, separated, readFirst, later, bind, Except.bind]
      rfl

/-- **A list of names is read back** as the characters that are heard in them. -/
theorem readNames_listed {cast : Cast} {names : List String} {ids : List Ident}
    (h : List.Forall₂ (HeardAs cast) names ids) (nonempty : ∀ name ∈ names, Text.words name ≠ []) :
    readNames cast (listedWords names) = .ok ids := by
  cases h with
  | nil => rfl
  | @cons name id rest ids hname hrest =>
    have opened : ∀ ws, readNames cast (Text.words name ++ ws) =
        readName cast (Text.words name ++ ws) >>= fun read =>
          readMoreNames cast read.2.length read.2 >>= fun ids => pure (read.1 :: ids) := by
      intro ws
      cases hw : Text.words name with
      | nil => exact absurd hw (nonempty name List.mem_cons_self)
      | cons first more => rfl
    by_cases hrestNe : rest = []
    · subst hrestNe
      cases hrest
      have openedLast := opened []
      rw [hname [] nofun, List.append_nil] at openedLast
      rw [listedWords, openedLast]
      rfl
    · obtain ⟨separator, hsep, hwords⟩ := listedWords_cons name hrestNe
      have readFirst := hname (separator :: listedWords rest) fun _ h => Option.some.inj h ▸ hsep
      have later := readMoreNames_listed hrest hrestNe hsep (Nat.lt_succ_self _)
      rw [hwords, opened, readFirst]
      simp only [List.length_cons, later, bind, Except.bind]
      rfl

/-! ## Whole directions -/

theorem nameOf_eq_ok {cast : Cast} {id : Ident} {name : String} (h : nameOf cast id = .ok name) :
    cast.nameOf id = some name := by
  unfold nameOf at h
  split at h
  · cases h
    assumption
  · cases h

theorem namesOf_cons_eq_ok {cast : Cast} {id : Ident} {ids : List Ident} {names : List String}
    (h : namesOf cast (id :: ids) = .ok names) :
    ∃ name rest, names = name :: rest ∧ cast.nameOf id = some name ∧ namesOf cast ids = .ok rest := by
  rw [namesOf] at h
  cases hname : nameOf cast id with
  | error cause =>
    rw [hname] at h
    cases h
  | ok name =>
    rw [hname] at h
    cases hrest : namesOf cast ids with
    | error cause =>
      rw [hrest] at h
      cases h
    | ok rest =>
      rw [hrest] at h
      cases h
      exact ⟨name, rest, rfl, nameOf_eq_ok hname, rfl⟩

theorem eq_nil_of_namesOf {cast : Cast} {ids : List Ident} (h : namesOf cast ids = .ok []) : ids = [] := by
  cases ids with
  | nil => rfl
  | cons id ids =>
    obtain ⟨_, _, hcons, -⟩ := namesOf_cons_eq_ok h
    cases hcons

/-- names that a cast gives to characters can be listed, and are heard as the renamed characters -/
theorem forall₂_of_namesOf {teller cast : Cast} {f : Ident → Ident} {ids : List Ident} {names : List String}
    (hnames : namesOf teller ids = .ok names)
    (h : ∀ id ∈ ids, ∀ name, teller.nameOf id = some name → Listable name ∧ HeardAs cast name (f id)) :
    (∀ name ∈ names, Listable name) ∧ List.Forall₂ (HeardAs cast) names (ids.map f) := by
  induction ids generalizing names with
  | nil =>
    cases hnames
    exact ⟨nofun, .nil⟩
  | cons id ids ih =>
    obtain ⟨name, rest, rfl, hname, hrest⟩ := namesOf_cons_eq_ok hnames
    obtain ⟨hlistable, hheard⟩ := h id List.mem_cons_self name hname
    obtain ⟨hall, hrest⟩ := ih hrest fun other hother => h other (List.mem_cons_of_mem _ hother)
    exact ⟨List.forall_mem_cons.2 ⟨hlistable, hall⟩, .cons hheard hrest⟩

/-- the texts of directions -/
theorem compose_cases {cast : Cast} {direction : StageDirection} {text : String}
    (h : compose cast direction = .ok text) :
    (∃ ids names, direction = .enter ids ∧ ids ≠ [] ∧ namesOf cast ids = .ok names ∧
        text = "Enter" ++ " " ++ listed names) ∨
      (∃ id name, direction = .exit id ∧ cast.nameOf id = some name ∧ text = "Exit" ++ " " ++ name) ∨
      (direction = .exeunt [] ∧ text = "Exeunt") ∨
      ∃ ids names, direction = .exeunt ids ∧ ids ≠ [] ∧ namesOf cast ids = .ok names ∧
        text = "Exeunt" ++ " " ++ listed names := by
  cases direction with
  | enter ids =>
    cases ids with
    | nil => cases h
    | cons id ids =>
      cases hnames : namesOf cast (id :: ids) with
      | error cause =>
        simp only [compose, hnames] at h
        cases h
      | ok names =>
        simp only [compose, hnames] at h
        cases h
        exact .inl ⟨_, names, rfl, by simp, hnames, rfl⟩
  | exit id =>
    cases hname : nameOf cast id with
    | error cause =>
      simp only [compose, hname] at h
      cases h
    | ok name =>
      simp only [compose, hname] at h
      cases h
      exact .inr (.inl ⟨id, name, rfl, nameOf_eq_ok hname, rfl⟩)
  | exeunt ids =>
    cases ids with
    | nil =>
      cases h
      exact .inr (.inr (.inl ⟨rfl, rfl⟩))
    | cons id ids =>
      cases hnames : namesOf cast (id :: ids) with
      | error cause =>
        simp only [compose, hnames] at h
        cases h
      | ok names =>
        simp only [compose, hnames] at h
        cases h
        exact .inr (.inr (.inr ⟨_, names, rfl, by simp, hnames, rfl⟩))

section Verbs

variable {cast : Cast} {text : String} {ws : Words}

theorem parse_of_enter (h : directionWords text = "Enter" :: ws) {ids : List Ident} (hids : readNames cast ws = .ok ids)
    (hne : ids ≠ []) : parse cast text = .ok (.enter ids) := by
  have words : Words.ofText (String.ofList (dropBrackets (Text.trimChars text.toList))) = "Enter" :: ws := h
  have enter : Words.eat "enter" ("Enter" :: ws) = some ws := Words.eat_eq_some (by decide) ws
  unfold parse
  rw [words]
  simp only [enter, hids, bind, Except.bind]
  rw [if_neg (by simp [hne])]
  rfl

theorem parse_of_exit (h : directionWords text = "Exit" :: ws) :
    parse cast text =
      readName cast ws >>= fun found => Sentence.expectEnd found.2 >>= fun _ => .ok (.exit found.1) := by
  have words : Words.ofText (String.ofList (dropBrackets (Text.trimChars text.toList))) = "Exit" :: ws := h
  have noEntrance : Words.eat "enter" ("Exit" :: ws) = none := Words.eat_eq_none (by decide) ws
  have exit : Words.eat "exit" ("Exit" :: ws) = some ws := Words.eat_eq_some (by decide) ws
  unfold parse
  rw [words]
  simp only [noEntrance, exit]
  rfl

theorem parse_of_exeunt (h : directionWords text = "Exeunt" :: ws) {ids : List Ident}
    (hids : readNames cast ws = .ok ids) : parse cast text = .ok (.exeunt ids) := by
  have words : Words.ofText (String.ofList (dropBrackets (Text.trimChars text.toList))) = "Exeunt" :: ws := h
  have noEntrance : Words.eat "enter" ("Exeunt" :: ws) = none := Words.eat_eq_none (by decide) ws
  have noExit : Words.eat "exit" ("Exeunt" :: ws) = none := Words.eat_eq_none (by decide) ws
  have exeunt : Words.eat "exeunt" ("Exeunt" :: ws) = some ws := Words.eat_eq_some (by decide) ws
  unfold parse
  rw [words]
  simp only [noEntrance, noExit, exeunt, hids, bind, Except.bind]
  rfl

end Verbs

/-- **A direction is parsed as it was composed**, bare or between brackets, if every name in it can be listed and is
heard as its character. -/
theorem parse_composed {teller cast : Cast} {f : Ident → Ident} {direction : StageDirection}
    (h : ∀ id ∈ direction.mentions, ∀ name, teller.nameOf id = some name → Listable name ∧ HeardAs cast name (f id))
    {text : String} (hcompose : compose teller direction = .ok text) :
    ∀ written ∈ [text, "[" ++ text ++ "]"], parse cast written = .ok (direction.rename f) := by
  have behind : ∀ {verb : String}, verb.toList.head? = some 'E' → Words.ofBody verb = [verb] →
      ∀ {names : List String}, (∀ name ∈ names, Listable name) → names ≠ [] →
        ∀ written ∈ [verb ++ " " ++ listed names, "[" ++ (verb ++ " " ++ listed names) ++ "]"],
          directionWords written = verb :: listedWords names := by
    intro verb hverb hword names hnames hne
    obtain ⟨bare, bracketed⟩ := directionWords_verb hverb (by decide) (by decide) (closesPlain_listed hnames hne)
    rw [hword, ofBody_listed hnames] at bare bracketed
    exact List.forall_mem_cons.2 ⟨bare, List.forall_mem_singleton.2 bracketed⟩
  rcases compose_cases hcompose with ⟨ids, names, rfl, hne, hnames, rfl⟩ | ⟨id, name, rfl, hname, rfl⟩ | ⟨rfl, rfl⟩ |
    ⟨ids, names, rfl, hne, hnames, rfl⟩
  · obtain ⟨hlistable, hheard⟩ := forall₂_of_namesOf hnames h
    have hnamesNe : names ≠ [] := fun hnil => hne (eq_nil_of_namesOf (hnil ▸ hnames))
    intro written hwritten
    refine parse_of_enter (behind rfl (by decide) hlistable hnamesNe written hwritten) ?_ (by simpa using hne)
    exact readNames_listed hheard fun name hname => (hlistable name hname).nonempty
  · obtain ⟨hlistable, hheard⟩ := h id (List.mem_singleton_self id) name hname
    intro written hwritten
    have words : directionWords written = "Exit" :: Text.words name :=
      behind rfl (by decide) (List.forall_mem_singleton.2 hlistable) (List.cons_ne_nil name []) written hwritten
    have read := hheard [] nofun
    rw [List.append_nil] at read
    rw [parse_of_exit words, read]
    rfl
  · intro written hwritten
    rcases List.mem_pair.1 hwritten with rfl | rfl <;> rfl
  · obtain ⟨hlistable, hheard⟩ := forall₂_of_namesOf hnames h
    have hnamesNe : names ≠ [] := fun hnil => hne (eq_nil_of_namesOf (hnil ▸ hnames))
    intro written hwritten
    refine parse_of_exeunt (behind rfl (by decide) hlistable hnamesNe written hwritten) ?_
    exact readNames_listed hheard fun name hname => (hlistable name hname).nonempty

section Standard

variable {teller : Cast} {hearer : Vocabulary} (hh : Sentence.Hearer hearer) {f : Ident → Ident} {known : Ident → Prop}
  (hfollow : hearer.cast.Follows teller f known)
include hh hfollow

/-- a name of the standard vocabulary is heard whatever follows it -/
theorem readName_words {id : Ident} (hknown : known id) {name : String} (hname : teller.nameOf id = some name)
    (rest : Words) : readName hearer.cast (Text.words name ++ rest) = .ok (f id, rest) := by
  obtain ⟨hmem, hident⟩ := hfollow id name hknown hname
  simp only [readName, Phrase.eatLongest_name hh.readable hmem rest, hident]

theorem mem_standardCast_of_namesOf {ids : List Ident} (hknown : ∀ id ∈ ids, known id) {names : List String}
    (hnames : namesOf teller ids = .ok names) : ∀ name ∈ names, name ∈ standardCast := by
  induction ids generalizing names with
  | nil =>
    cases hnames
    simp
  | cons id ids ih =>
    obtain ⟨name, rest, rfl, hname, hrest⟩ := namesOf_cons_eq_ok hnames
    intro other ho
    rcases List.mem_cons.1 ho with rfl | ho
    · exact hh.names _ (hfollow id _ (hknown id List.mem_cons_self) hname).1
    · exact ih (fun id h => hknown id (List.mem_cons_of_mem _ h)) hrest other ho

/-- **A direction is parsed as it was composed**, under the hearer's identifiers. -/
theorem parse_compose_direction {direction : StageDirection} (hknown : ∀ id ∈ direction.mentions, known id)
    {text : String} (h : compose teller direction = .ok text) :
    parse hearer.cast text = .ok (direction.rename f) := by
  refine parse_composed (fun id hid name hname => ?_) h text List.mem_cons_self
  have hmem := (hfollow id name (hknown id hid) hname).1
  exact ⟨listable_of_standard (hh.names name hmem), fun rest _ => readName_words hh hfollow (hknown id hid) hname rest⟩

end Standard

end Direction

end Playscript
