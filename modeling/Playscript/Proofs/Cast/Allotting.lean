/-
Names given out to characters that have none: they get the names of the pool in order, if there are enough
(`allocateAll_eq_ok_iff`).
-/
import Playscript.Proofs.Cast.Bijection

namespace Playscript.Cast

/-- the first name of the pool, if nobody bears it, goes to whoever is new -/
theorem allocate_of_new {cast : Cast} {id : Ident} {name : String} {pool : List String} (hnew : cast.nameOf id = none)
    (hpool : cast.pool = name :: pool) (hfree : ¬ cast.Bears name) :
    cast.allocate id = .ok (name, ⟨pool, cast.members ++ [(id, name)]⟩) := by
  have free : (!cast.isTaken name) = true := by
    rw [← isTaken_iff] at hfree
    simpa using hfree
  rw [allocate, hnew, hpool, List.findIdx?_cons, if_pos free]
  rfl

/-- **New characters get the names of the pool in order**, if there are enough of them. -/
theorem allocateAll_eq_ok_iff {cast next : Cast} {ids : List Ident} (new : (cast.members.map (·.1) ++ ids).Nodup)
    (apart : ((cast.names ++ cast.pool).map Text.lowercase).Nodup) :
    cast.allocateAll ids = .ok next ↔
      ids.length ≤ cast.pool.length ∧ next = ⟨cast.pool.drop ids.length, cast.members ++ ids.zip cast.pool⟩ := by
  induction ids generalizing cast with
  | nil => simp [allocateAll, eq_comm]
  | cons id ids ih =>
    have hnew : cast.nameOf id = none := by
      rw [nameOf, Option.map_eq_none_iff, List.find?_eq_none]
      intro member hmember heq
      have listed : member.1 ∈ cast.members.map (·.1) := List.mem_map_of_mem hmember
      exact List.disjoint_of_nodup_append new listed (by simpa using Or.inl (eq_of_beq heq))
    cases hpool : cast.pool with
    | nil =>
      rw [allocateAll, allocate, hnew, hpool]
      refine ⟨fun h => ?_, fun h => absurd h.1 (by simp)⟩
      cases h
    | cons name pool =>
      rw [hpool] at apart
      have hfree : ¬ cast.Bears name := by
        rw [List.map_append] at apart
        exact fun hborne => List.disjoint_of_nodup_append apart hborne List.mem_cons_self
      have new' : ((cast.members ++ [(id, name)]).map (·.1) ++ ids).Nodup := by simpa using new
      have apart' : (((cast.members ++ [(id, name)]).map (·.2) ++ pool).map Text.lowercase).Nodup := by
        simpa [Cast.names] using apart
      rw [allocateAll, allocate_of_new hnew hpool hfree]
      refine (@ih ⟨pool, cast.members ++ [(id, name)]⟩ new' apart').trans ?_
      simp

end Playscript.Cast
