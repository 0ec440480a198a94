/-
The casts that can come about.

- `Cast.Reached`: a cast begins fresh or recovered from a play, and then names are given out, one by one or for the
  placeholders of a text;
- `recoverFrom_recovered`: a recovered cast holds exactly the names it was asked for, under identifiers all different;
- `drawn_of_reached`: so in every cast that can come about each character has one name and each name, in whatever letter
  case, one character.
-/
import Playscript.Proofs.Conversion.Naming
import Playscript.Proofs.Text.Lowercase

namespace Playscript.Cast

/-- casts as they come about, whether or not the texts that names are put into have any fault -/
inductive Reached : Cast → Prop where
  | fresh (names : List String) : Reached (ofNames names)
  | recovered {names : List String} {cast : Cast} : recover names = .ok cast → Reached cast
  | allocated {cast next : Cast} {id : Ident} {name : String} :
    Reached cast → cast.allocate id = .ok (name, next) → Reached next
  | substituted {cast : Cast} (text : String) : Reached cast → Reached (cast.substitute text).2

/-- every name stands for the identifier derived from it, and these are all different -/
structure Recovered (cast : Cast) : Prop where
  pool : cast.pool = []
  derived : ∀ id name, (id, name) ∈ cast.members → id = identifierFor name
  once : (cast.members.map (·.1)).Nodup

theorem Recovered.join {cast : Cast} (h : cast.Recovered) {name : String}
    (hfresh : cast.nameOf (identifierFor name) = none) : (cast.join (identifierFor name) name).Recovered := by
  refine ⟨h.pool, fun id other hmem => ?_, ?_⟩
  · rcases List.mem_append.1 hmem with hmem | hmem
    · exact h.derived id other hmem
    · cases List.mem_singleton.1 hmem
      rfl
  · rw [Cast.join, List.map_append, List.map_singleton, ← List.concat_eq_append, List.nodup_concat]
    exact ⟨nameOf_eq_none hfresh, h.once⟩

theorem recoverFrom_recovered {cast next : Cast} {names : List String} (h : cast.Recovered)
    (hnext : cast.recoverFrom names = .ok next) : next.Recovered := by
  induction names generalizing cast with
  | nil =>
    cases hnext
    exact h
  | cons name names ih =>
    rw [recoverFrom] at hnext
    split at hnext
    · cases hnext
    · rename_i hfresh
      exact ih (h.join hfresh) hnext

theorem recovered_of_recover {cast : Cast} {names : List String} (h : recover names = .ok cast) : cast.Recovered :=
  recoverFrom_recovered ⟨rfl, by simp [ofNames], by simp [ofNames]⟩ h

theorem names_of_recoverFrom {cast next : Cast} {names : List String} (h : cast.recoverFrom names = .ok next) :
    next.names = cast.names ++ names := by
  induction names generalizing cast with
  | nil =>
    cases h
    rw [List.append_nil]
  | cons name names ih =>
    rw [recoverFrom] at h
    split at h
    · cases h
    · rw [ih h, join, Cast.names, Cast.names, List.map_append, List.map_singleton, List.append_assoc,
        List.singleton_append]

/-- a recovered cast has the names it was asked for, and their identifiers are all different -/
theorem identifiers_of_recover {cast : Cast} {names : List String} (h : recover names = .ok cast) :
    cast.names = names ∧ cast.members.map (·.1) = names.map identifierFor ∧ (names.map identifierFor).Nodup := by
  have recovered := recovered_of_recover h
  have hnames : cast.names = names := by rw [names_of_recoverFrom h, ofNames, Cast.names, List.map_nil, List.nil_append]
  have hids : cast.members.map (·.1) = names.map identifierFor := by
    rw [← hnames, Cast.names, List.map_map]
    exact List.map_congr_left fun member hmember => recovered.derived _ _ hmember
  exact ⟨hnames, hids, hids ▸ recovered.once⟩

/-- names with different identifiers differ in small letters, so a recovered cast is drawn from its own names -/
theorem Recovered.drawn {cast : Cast} (h : cast.Recovered) : cast.Drawn cast.names := by
  refine ⟨by simp [h.pool], fun _ hname => hname, h.once, ?_⟩
  rw [Cast.names, List.map_map]
  refine List.Nodup.map_on (fun first hfirst second hsecond heq => ?_) h.once.of_map
  refine List.inj_on_of_nodup_map h.once hfirst hsecond ?_
  rw [h.derived _ _ hfirst, h.derived _ _ hsecond, identifierFor_congr heq]

theorem Drawn.grows {names : List String} {cast next : Cast} (h : cast.Drawn names) (hgrows : cast.Grows next) :
    next.Drawn names := by
  induction hgrows with
  | refl => exact h
  | allocate _ ha ih => exact ih.allocate ha

/-- **In every cast that can come about names and characters stand for one another.** -/
theorem drawn_of_reached {cast : Cast} (h : cast.Reached) : ∃ names, cast.Drawn names := by
  induction h with
  | fresh names => exact ⟨names, drawn_ofNames names⟩
  | recovered h => exact ⟨_, (recovered_of_recover h).drawn⟩
  | allocated _ ha ih => exact ih.imp fun _ h => h.allocate ha
  | substituted text _ ih => exact ih.imp fun _ h => h.grows (substitute_grows _ text)

end Playscript.Cast
