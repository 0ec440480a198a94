/-
Giving out names.

- `Cast.Grows`: one cast has been reached from another by giving out names;
- `Cast.Drawn`: what holds of every cast reached from a fresh one (`drawn_of_grows`): each character has one name and
  each name, in whatever letter case, one character, and all names come from the list that the cast began with;
- `follows_self`: so a cast knows its own characters by the names that it gives them.
-/
import Playscript.Proofs.Phrase.Spelling
import Mathlib.Data.List.Nodup

namespace Playscript

/-- an item is found by its key when no two items have the same -/
theorem find?_of_nodup {α κ : Type} [BEq κ] [LawfulBEq κ] {key : α → κ} {items : List α} (h : (items.map key).Nodup)
    {item : α} (hmem : item ∈ items) : items.find? (fun other => key other == key item) = some item := by
  induction items with
  | nil => cases hmem
  | cons first items ih =>
    rw [List.map_cons, List.nodup_cons] at h
    rcases List.mem_cons.1 hmem with rfl | hrest
    · simp
    · have apart : key first ≠ key item := fun e => h.1 (e ▸ List.mem_map_of_mem hrest)
      rw [List.find?_cons_of_neg (by simpa using apart)]
      exact ih h.2 hrest

namespace Cast

theorem nameOf_eq_some {cast : Cast} {id : Ident} {name : String} (h : cast.nameOf id = some name) :
    (id, name) ∈ cast.members := by
  obtain ⟨⟨other, _⟩, hfind, rfl⟩ := Option.map_eq_some_iff.1 h
  have he : other = id := by simpa using List.find?_some hfind
  exact he ▸ List.mem_of_find?_eq_some hfind

theorem nameOf_eq_none {cast : Cast} {id : Ident} (h : cast.nameOf id = none) : id ∉ cast.members.map (·.1) := by
  rw [nameOf, Option.map_eq_none_iff, List.find?_eq_none] at h
  intro hmem
  obtain ⟨member, hm, he⟩ := List.mem_map.1 hmem
  exact h member hm (by simp [he])

theorem identOf_eq_none {cast : Cast} {name : String} (h : cast.identOf name = none) :
    Text.lowercase name ∉ cast.names.map Text.lowercase := by
  simp only [identOf, Option.map_eq_none_iff, List.find?_eq_none] at h
  intro hmem
  obtain ⟨other, hother, he⟩ := List.mem_map.1 hmem
  obtain ⟨member, hm, rfl⟩ := List.mem_map.1 hother
  exact h member hm (by simp [he])

theorem mem_names {cast : Cast} {id : Ident} {name : String} (h : (id, name) ∈ cast.members) : name ∈ cast.names :=
  List.mem_map.2 ⟨_, h, rfl⟩

/-! ## Casts that names are given out to -/

/-- the second cast comes from the first by giving out names -/
inductive Grows : Cast → Cast → Prop where
  | refl (cast : Cast) : Grows cast cast
  | allocate {first last next : Cast} {id : Ident} {name : String} :
    Grows first last → last.allocate id = .ok (name, next) → Grows first next

/-- a cast whose names have been drawn from `names`, each for one character -/
structure Drawn (names : List String) (cast : Cast) : Prop where
  pool : ∀ name ∈ cast.pool, name ∈ names
  named : ∀ name ∈ cast.names, name ∈ names
  once : (cast.members.map (·.1)).Nodup
  apart : (cast.names.map Text.lowercase).Nodup

/-- a character that has a name keeps it; any other gets a name that nobody bears -/
theorem allocate_cases {cast next : Cast} {id : Ident} {name : String} (h : cast.allocate id = .ok (name, next)) :
    (cast.nameOf id = some name ∧ next = cast) ∨
      ∃ i, cast.nameOf id = none ∧ name ∈ cast.pool ∧ cast.identOf name = none ∧
        next = { cast with pool := cast.pool.eraseIdx i }.join id name := by
  unfold allocate at h
  split at h
  · rename_i hname
    cases h
    exact .inl ⟨hname, rfl⟩
  · rename_i hname
    split at h
    · cases h
    · rename_i i hi
      cases h
      obtain ⟨hlt, hfree, -⟩ := List.findIdx?_eq_some_iff_getElem.1 hi
      have hget : cast.pool.getD i "" = cast.pool[i] := by simp [hlt]
      refine .inr ⟨i, hname, hget ▸ List.getElem_mem hlt, ?_, rfl⟩
      rw [hget]
      simpa [isTaken] using hfree

theorem drawn_ofNames (names : List String) : (ofNames names).Drawn names :=
  ⟨fun _ h => h, by simp [ofNames, Cast.names], by simp [ofNames], by simp [ofNames, Cast.names]⟩

theorem Drawn.allocate {names : List String} {cast next : Cast} {id : Ident} {name : String} (h : cast.Drawn names)
    (ha : cast.allocate id = .ok (name, next)) : next.Drawn names := by
  rcases allocate_cases ha with ⟨-, rfl⟩ | ⟨i, hname, hpool, hfree, rfl⟩
  · exact h
  · refine ⟨fun other ho => ?_, fun other ho => ?_, ?_, ?_⟩
    · exact h.pool other (List.mem_of_mem_eraseIdx ho)
    · simp only [join, Cast.names, List.map_append, List.mem_append, List.map_cons, List.map_nil,
        List.mem_singleton] at ho
      rcases ho with ho | rfl
      · exact h.named other ho
      · exact h.pool other hpool
    · rw [join, List.map_append, List.map_singleton, ← List.concat_eq_append, List.nodup_concat]
      exact ⟨nameOf_eq_none hname, h.once⟩
    · rw [join, Cast.names, List.map_append, List.map_append, List.map_singleton, List.map_singleton,
        ← List.concat_eq_append, List.nodup_concat]
      exact ⟨identOf_eq_none hfree, h.apart⟩

/-- **Names are given out once.** -/
theorem drawn_of_grows {names : List String} {cast : Cast} (h : (ofNames names).Grows cast) : cast.Drawn names := by
  generalize hfresh : ofNames names = fresh at h
  induction h with
  | refl => exact hfresh ▸ drawn_ofNames names
  | allocate _ ha ih => exact ih.allocate ha

theorem Drawn.identOf_of_mem {names : List String} {cast : Cast} (h : cast.Drawn names) {id : Ident} {name : String}
    (hmem : (id, name) ∈ cast.members) : cast.identOf name = some id := by
  have hapart : (cast.members.map fun member => Text.lowercase member.2).Nodup := by
    have e : (cast.members.map fun member => Text.lowercase member.2) = cast.names.map Text.lowercase := by
      simp [Cast.names]
    exact e ▸ h.apart
  have hfind := find?_of_nodup hapart hmem
  simp only [identOf, hfind, Option.map_some]

/-- **A cast knows its own characters** by the names that it gives them. -/
theorem Drawn.follows_self {names : List String} {cast : Cast} (h : cast.Drawn names) :
    cast.Follows cast id fun _ => True :=
  fun _ _ _ hname => ⟨mem_names (nameOf_eq_some hname), h.identOf_of_mem (nameOf_eq_some hname)⟩

end Cast

end Playscript
