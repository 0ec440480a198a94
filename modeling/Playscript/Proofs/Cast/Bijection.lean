/-
Names and identifiers stand for one another, whatever is asked of a cast.

- `Asked`, `allocate_asked`: who asks for a name has one already, gets the first name of the pool that nobody bears, or
  is refused because somebody bears each of them;
- `substitute_eq_after`: a text asks for the names of its placeholders in turn;
- `slots`: where each key is entered in a list, by entering one member after the other; in a list without repeated keys
  this finds what searching finds (`find?_eq_slots`);
- `Paired`, `paired_of_reached`: in every cast that comes about, identifiers and names are entered once and lead to one
  another;
- `bijection_of_calls`: this holds after any calls, none of which changes or takes away what was entered before.
-/
import Playscript.Proofs.Cast.Reached
import Mathlib.Data.List.Induction
import Mathlib.Logic.Function.Basic

namespace Playscript.Cast

/-! ## Asking for a name -/

/-- somebody has this name, in whatever letter case -/
def Bears (cast : Cast) (name : String) : Prop := Text.lowercase name ∈ cast.names.map Text.lowercase

/-- what comes of asking for the name of a character -/
inductive Asked (cast : Cast) (id : Ident) : Except CastError (String × Cast) → Prop where
  | known {name : String} : cast.nameOf id = some name → Asked cast id (.ok (name, cast))
  | named {before after : List String} {name : String} :
    cast.nameOf id = none → cast.pool = before ++ name :: after → (∀ other ∈ before, cast.Bears other) →
      ¬ cast.Bears name → Asked cast id (.ok (name, ⟨before ++ after, cast.members ++ [(id, name)]⟩))
  | refused : cast.nameOf id = none → (∀ name ∈ cast.pool, cast.Bears name) → Asked cast id (.error (.exhausted id))

theorem isTaken_iff {cast : Cast} {name : String} : cast.isTaken name = true ↔ cast.Bears name := by
  simp [isTaken, identOf, Bears, Cast.names]

/-- **A new character gets the first name of the pool that nobody bears.** -/
theorem allocate_asked (cast : Cast) (id : Ident) : cast.Asked id (cast.allocate id) := by
  unfold allocate
  cases hname : cast.nameOf id with
  | some name => exact .known hname
  | none =>
    dsimp only
    split
    · rename_i hnone
      refine .refused hname fun name hmem => isTaken_iff.1 ?_
      simpa using List.findIdx?_eq_none_iff.1 hnone name hmem
    · rename_i i hi
      obtain ⟨hlt, hfree, hbefore⟩ := List.findIdx?_eq_some_iff_getElem.1 hi
      have hget : cast.pool.getD i "" = cast.pool[i] := by simp [hlt]
      rw [hget, List.eraseIdx_eq_take_drop_succ, join]
      refine .named hname ?_ (fun other hother => isTaken_iff.1 ?_) fun hborne => ?_
      · rw [← List.drop_eq_getElem_cons hlt, List.take_append_drop]
      · obtain ⟨j, hj, rfl⟩ := List.mem_take_iff_getElem.1 hother
        simpa using hbefore j (Nat.lt_of_lt_of_le hj (Nat.min_le_left _ _))
      · rw [isTaken_iff.2 hborne] at hfree
        cases hfree

/-- asking fails exactly if the character is new and somebody bears each name that is left -/
theorem allocate_eq_error_iff {cast : Cast} {id : Ident} :
    (∃ cause, cast.allocate id = .error cause) ↔ cast.nameOf id = none ∧ ∀ name ∈ cast.pool, cast.Bears name := by
  have asked := cast.allocate_asked id
  generalize cast.allocate id = answer at asked
  cases asked with
  | known hname => simp [hname]
  | named hname hpool _ hfree =>
    refine ⟨nofun, fun h => absurd (h.2 _ ?_) hfree⟩
    rw [hpool]
    exact List.mem_append_right _ List.mem_cons_self
  | refused hname hpool => exact ⟨fun _ => ⟨hname, hpool⟩, fun _ => ⟨_, rfl⟩⟩

/-! ## Calls -/

/-- what a cast can be asked to do that may change it -/
inductive Call where
  | allocate (id : Ident)
  | substitute (text : String)
  deriving DecidableEq, Repr

/-- the cast that a call leaves behind, which is the same cast if no name can be given out -/
def call (cast : Cast) : Call → Cast
  | .allocate id =>
    match cast.allocate id with
    | .ok (_, next) => next
    | .error _ => cast
  | .substitute text => (cast.substitute text).2

def after (cast : Cast) (calls : List Call) : Cast := calls.foldl call cast

theorem call_grows (cast : Cast) (c : Call) : cast.Grows (cast.call c) := by
  cases c with
  | allocate id =>
    dsimp only [call]
    split
    · rename_i name next ha
      exact (Grows.refl cast).allocate ha
    · exact .refl cast
  | substitute text => exact substitute_grows cast text

theorem after_grows (cast : Cast) (calls : List Call) : cast.Grows (cast.after calls) := by
  induction calls generalizing cast with
  | nil => exact .refl cast
  | cons c calls ih => exact (cast.call_grows c).trans (ih (cast.call c))

/-- **What is entered stays**, as it is and where it is. -/
theorem Grows.members_extend {cast next : Cast} (h : cast.Grows next) : cast.members <+: next.members := by
  induction h with
  | refl => exact List.prefix_rfl
  | @allocate last next id name _ ha ih =>
    have asked := ha ▸ last.allocate_asked id
    cases asked with
    | known _ => exact ih
    | named _ _ _ _ => exact ih.trans (List.prefix_append _ _)

theorem Reached.after {cast : Cast} (h : cast.Reached) (calls : List Call) : (cast.after calls).Reached := by
  induction calls generalizing cast with
  | nil => exact h
  | cons c calls ih =>
    refine ih ?_
    cases c with
    | allocate id =>
      dsimp only [call]
      split
      · rename_i name next ha
        exact h.allocated ha
      · exact h
    | substitute text => exact h.substituted text

/-! ## Names for placeholders -/

/-- where all names are borne, asking changes nothing -/
theorem after_of_borne {cast : Cast} (h : ∀ name ∈ cast.pool, cast.Bears name) (ids : List Ident) :
    cast.after (ids.map .allocate) = cast := by
  induction ids with
  | nil => rfl
  | cons id ids ih =>
    have asked := cast.allocate_asked id
    have same : cast.call (.allocate id) = cast := by
      dsimp only [call]
      generalize cast.allocate id = answer at asked
      cases asked with
      | known _ => rfl
      | named _ hpool _ hfree =>
        refine absurd (h _ ?_) hfree
        rw [hpool]
        exact List.mem_append_right _ List.mem_cons_self
      | refused _ _ => rfl
    rw [List.map_cons, after, List.foldl_cons, same]
    exact ih

theorem fill_eq_after (cast : Cast) (segments : List Template.Segment) :
    (cast.fill segments).2 = cast.after ((Template.placeholders segments).map .allocate) := by
  induction segments generalizing cast with
  | nil => rfl
  | cons segment segments ih =>
    cases segment with
    | literal text => exact ih cast
    | placeholder id =>
      have first : Template.placeholders (.placeholder id :: segments) = id :: Template.placeholders segments := rfl
      rw [first, List.map_cons, after, List.foldl_cons, fill, call]
      have asked := cast.allocate_asked id
      generalize cast.allocate id = answer at asked
      cases asked with
      | known _ => exact ih cast
      | named _ _ _ _ => exact ih _
      | refused _ hpool => exact (after_of_borne hpool _).symm

/-- **A text asks for the names of its placeholders in turn**, if it is a template, and for none otherwise. -/
theorem substitute_eq_after (cast : Cast) (text : String) :
    (cast.substitute text).2 = cast.after (((placeholders text).toOption.getD []).map .allocate) := by
  unfold substitute placeholders
  cases templateOf text with
  | error cause => rfl
  | ok segments => exact fill_eq_after cast segments

/-! ## Slots -/

/-- where each key is entered when members are entered one by one; a later one takes the place of an earlier one -/
def slots {κ : Type} [DecidableEq κ] (key : Ident × String → κ) (members : List (Ident × String)) : κ → Option Nat :=
  members.zipIdx.foldl (fun index member => Function.update index (key member.1) (some member.2)) fun _ => none

section Slots

variable {κ : Type} [DecidableEq κ] (key : Ident × String → κ)

theorem slots_append (members : List (Ident × String)) (member : Ident × String) :
    slots key (members ++ [member]) = Function.update (slots key members) (key member) (some members.length) := by
  rw [slots, List.zipIdx_append, List.foldl_append, ← slots, Nat.zero_add]
  rfl

variable {key}

/-- a slot holds a member with its key -/
theorem slots_eq_some {members : List (Ident × String)} {k : κ} {i : Nat} (h : slots key members k = some i) :
    ∃ member, members[i]? = some member ∧ key member = k := by
  induction members using List.reverseRecOn generalizing i with
  | nil => cases h
  | append_singleton members member ih =>
    rw [slots_append] at h
    by_cases hk : k = key member
    · rw [hk, Function.update_self] at h
      cases h
      exact ⟨member, List.getElem?_concat_length, hk.symm⟩
    · rw [Function.update_of_ne hk] at h
      obtain ⟨found, hget, hfound⟩ := ih h
      exact ⟨found, List.getElem?_append_left (List.getElem?_eq_some_iff.1 hget).1 ▸ hget, hfound⟩

/-- every key has a slot -/
theorem slots_eq_none {members : List (Ident × String)} {k : κ} (h : slots key members k = none) :
    k ∉ members.map key := by
  induction members using List.reverseRecOn with
  | nil => exact List.not_mem_nil
  | append_singleton members member ih =>
    rw [slots_append] at h
    by_cases hk : k = key member
    · rw [hk, Function.update_self] at h
      cases h
    · rw [Function.update_of_ne hk] at h
      rw [List.map_append, List.mem_append, List.map_singleton, List.mem_singleton]
      exact not_or.2 ⟨ih h, hk⟩

/-- **Slots find what searching finds**, where no key is entered twice. -/
theorem find?_eq_slots {members : List (Ident × String)} (h : (members.map key).Nodup) (k : κ) :
    members.find? (fun member => key member == k) = (slots key members k).bind (members[·]?) := by
  cases hslot : slots key members k with
  | none =>
    rw [Option.bind_none, List.find?_eq_none]
    exact fun member hmem he => slots_eq_none hslot (List.mem_map.2 ⟨member, hmem, by simpa using he⟩)
  | some i =>
    obtain ⟨member, hget, rfl⟩ := slots_eq_some hslot
    rw [Option.bind_some, hget]
    exact find?_of_nodup h (List.mem_of_getElem? hget)

end Slots

/-! ## Pairs -/

/-- identifiers and names are entered once each and lead to one another, and the slots of both are in step with what is
entered -/
structure Paired (cast : Cast) : Prop where
  identifiers : (cast.members.map (·.1)).Nodup
  apart : (cast.names.map Text.lowercase).Nodup
  listed : ∀ id name, (id, name) ∈ cast.members ↔ cast.nameOf id = some name
  back : ∀ id name, cast.nameOf id = some name → ∀ other, Text.lowercase other = Text.lowercase name →
    cast.identOf other = some id
  forth : ∀ name id, cast.identOf name = some id →
    ∃ own, cast.nameOf id = some own ∧ Text.lowercase own = Text.lowercase name
  byIdent : ∀ id, cast.nameOf id = ((slots (·.1) cast.members id).bind (cast.members[·]?)).map (·.2)
  byName : ∀ name, cast.identOf name =
    ((slots (Text.lowercase ·.2) cast.members (Text.lowercase name)).bind (cast.members[·]?)).map (·.1)

theorem Drawn.paired {names : List String} {cast : Cast} (h : cast.Drawn names) : cast.Paired := by
  have apart : (cast.members.map fun member => Text.lowercase member.2).Nodup := by
    have hnames := h.apart
    rwa [Cast.names, List.map_map] at hnames
  have nameOf_of_mem : ∀ id name, (id, name) ∈ cast.members → cast.nameOf id = some name := by
    intro id name hmem
    rw [nameOf, find?_of_nodup h.once hmem]
    rfl
  refine ⟨h.once, h.apart, fun id name => ⟨nameOf_of_mem id name, nameOf_eq_some⟩, ?_, ?_, ?_, ?_⟩
  · intro id name hname other hother
    rw [identOf, hother]
    exact h.identOf_of_mem (nameOf_eq_some hname)
  · intro name id hid
    obtain ⟨member, hfind, rfl⟩ := Option.map_eq_some_iff.1 hid
    exact ⟨member.2, nameOf_of_mem _ _ (List.mem_of_find?_eq_some hfind), by simpa using List.find?_some hfind⟩
  · intro id
    rw [← find?_eq_slots h.once]
    rfl
  · intro name
    rw [← find?_eq_slots apart]
    rfl

/-- how a cast begins: with a list of names to give out, or with the characters of a play -/
inductive Begins : Cast → Prop where
  | fresh (names : List String) : Begins (ofNames names)
  | recovered {names : List String} {cast : Cast} : recover names = .ok cast → Begins cast

theorem Begins.reached {cast : Cast} (h : cast.Begins) : cast.Reached := by
  cases h with
  | fresh names => exact .fresh names
  | recovered h => exact .recovered h

/-- **A cast pairs identifiers and names at all times.** Let a cast begin with any names to give out, or with the
characters of a play, and be asked for any names, one by one or for the placeholders of texts, with or without success.
Then identifiers are all different, and so are names in small letters; a name in any letter case leads to its identifier
and that to the name; the members are exactly these pairs, what is asked next leaves them as they are and adds behind
them only; a new character gets the first name of the pool that nobody bears, and is refused exactly if somebody bears
each of them. Placeholders ask for names as anybody does. -/
theorem bijection_of_calls {start : Cast} (h : start.Begins) (calls : List Call) :
    let cast := start.after calls
    cast.Paired ∧ (∀ more, cast.members <+: (cast.after more).members) ∧
      (∀ id, cast.Asked id (cast.allocate id)) ∧
      (∀ id, (∃ cause, cast.allocate id = .error cause) ↔
        cast.nameOf id = none ∧ ∀ name ∈ cast.pool, cast.Bears name) ∧
      ∀ text, (cast.substitute text).2 = cast.after (((placeholders text).toOption.getD []).map .allocate) := by
  obtain ⟨names, drawn⟩ := drawn_of_reached (h.reached.after calls)
  exact ⟨drawn.paired, fun more => (after_grows _ more).members_extend, allocate_asked _,
    fun _ => allocate_eq_error_iff, substitute_eq_after _⟩

/-- two names of the list are one in small letters, so only two characters are named, and a third is refused -/
theorem bijection_of_calls_exhausted :
    let start := ofNames ["Romeo", "ROMEO", "Juliet"]
    let cast := start.after [.allocate ⟨"x"⟩, .substitute "\x7by\x7d meets \x7bx\x7d and \x7bz\x7d"]
    start.Begins ∧ cast = ⟨["ROMEO"], [(⟨"x"⟩, "Romeo"), (⟨"y"⟩, "Juliet")]⟩ ∧ cast.Paired ∧
      cast.identOf "rOMEO" = some ⟨"x"⟩ ∧ ∃ cause, cast.allocate ⟨"z"⟩ = .error cause := by
  have hcast : (ofNames ["Romeo", "ROMEO", "Juliet"]).after
      [.allocate ⟨"x"⟩, .substitute "\x7by\x7d meets \x7bx\x7d and \x7bz\x7d"] =
        ⟨["ROMEO"], [(⟨"x"⟩, "Romeo"), (⟨"y"⟩, "Juliet")]⟩ := by decide +kernel
  obtain ⟨paired, -, -, fails, -⟩ := bijection_of_calls (.fresh ["Romeo", "ROMEO", "Juliet"])
    [.allocate ⟨"x"⟩, .substitute "\x7by\x7d meets \x7bx\x7d and \x7bz\x7d"]
  refine ⟨.fresh _, hcast, paired, ?_, (fails ⟨"z"⟩).2 ?_⟩
  · exact paired.back ⟨"x"⟩ "Romeo" (by rw [hcast]; decide) "rOMEO" (by decide)
  · rw [hcast]
    exact ⟨by decide, List.forall_mem_singleton.2 (isTaken_iff.1 (by decide))⟩

/-- a play whose characters differ in letter case only has no cast -/
example : recover ["Lady Macbeth", "lady  macbeth"] =
    .error (.duplicateIdentifier "Lady Macbeth" "lady  macbeth" ⟨"lady_macbeth"⟩) := by decide +kernel

end Playscript.Cast
