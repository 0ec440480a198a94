/-
What naming the characters of a program does: it gives out names and fills in free texts, and leaves everything else
as it is.

- `Naming.Keeps`: every answer of a naming computation satisfies a property, and the cast has only grown;
- `ofProgram_eq_ok`: the program that comes out has the same characters and lines, and all declared characters have
  names that come from the lexicon.
-/
import Playscript.Conversion.Dramatize
import Playscript.Proofs.Cast
import Playscript.Proofs.Script.Soundness

namespace Playscript

namespace Cast

theorem Grows.trans {a b c : Cast} (hab : a.Grows b) (hbc : b.Grows c) : a.Grows c := by
  induction hbc with
  | refl => exact hab
  | allocate _ h ih => exact ih.allocate h

/-- a character that has a name keeps it -/
theorem Grows.nameOf {a b : Cast} (h : a.Grows b) {id : Ident} {name : String} (hname : a.nameOf id = some name) :
    b.nameOf id = some name := by
  induction h with
  | refl => exact hname
  | allocate _ ha ih =>
    rcases allocate_cases ha with ⟨-, rfl⟩ | ⟨i, -, -, -, rfl⟩
    · exact ih
    · rw [Cast.nameOf, Option.map_eq_some_iff] at ih
      obtain ⟨member, hfind, hsnd⟩ := ih
      simp only [Cast.nameOf, join, List.find?_append, hfind, Option.some_or, Option.map_some, hsnd]

theorem nameOf_join (cast : Cast) (id : Ident) (name : String) (h : cast.nameOf id = none) :
    (cast.join id name).nameOf id = some name := by
  rw [nameOf, Option.map_eq_none_iff] at h
  simp [nameOf, join, List.find?_append, h]

/-- whoever has just been given a name has it -/
theorem nameOf_of_allocate {cast next : Cast} {id : Ident} {name : String} (h : cast.allocate id = .ok (name, next)) :
    next.nameOf id = some name := by
  rcases allocate_cases h with ⟨hname, rfl⟩ | ⟨i, hname, -, -, rfl⟩
  · exact hname
  · exact nameOf_join { cast with pool := cast.pool.eraseIdx i } id name hname

theorem allocateAll_eq_ok {cast next : Cast} {ids : List Ident} (h : cast.allocateAll ids = .ok next) :
    cast.Grows next ∧ ∀ id ∈ ids, ∃ name, next.nameOf id = some name := by
  induction ids generalizing cast with
  | nil =>
    cases h
    exact ⟨.refl _, by simp⟩
  | cons id ids ih =>
    rw [allocateAll] at h
    cases ha : cast.allocate id with
    | error cause =>
      rw [ha] at h
      cases h
    | ok answer =>
      obtain ⟨name, middle⟩ := answer
      rw [ha] at h
      obtain ⟨hgrows, hnamed⟩ := ih h
      refine ⟨((Grows.refl cast).allocate ha).trans hgrows, fun other ho => ?_⟩
      rcases List.mem_cons.1 ho with rfl | ho
      · exact ⟨name, hgrows.nameOf (nameOf_of_allocate ha)⟩
      · exact hnamed other ho

theorem fill_grows (cast : Cast) (segments : List Template.Segment) : cast.Grows (cast.fill segments).2 := by
  induction segments generalizing cast with
  | nil => exact .refl cast
  | cons segment segments ih =>
    cases segment with
    | literal text => exact ih cast
    | placeholder id =>
      rw [fill]
      split
      · exact .refl cast
      · rename_i name next ha
        exact ((Grows.refl cast).allocate ha).trans (ih next)

theorem substitute_grows (cast : Cast) (text : String) : cast.Grows (cast.substitute text).2 := by
  unfold substitute
  split
  · exact .refl cast
  · exact fill_grows cast _

end Cast

namespace Naming

variable {α β : Type}

/-- every answer satisfies `P`, and the cast only grows -/
def Keeps (x : Naming α) (P : α → Prop) : Prop := ∀ cast a next, x cast = .ok (a, next) → cast.Grows next ∧ P a

theorem keeps_pure {P : α → Prop} {a : α} (h : P a) : Keeps (pure a) P := by
  intro cast b next hb
  cases hb
  exact ⟨.refl cast, h⟩

theorem Keeps.bind {x : Naming α} {f : α → Naming β} {P : α → Prop} {Q : β → Prop} (hx : Keeps x P)
    (hf : ∀ a, P a → Keeps (f a) Q) : Keeps (x >>= f) Q := by
  intro cast b next hb
  simp only [Bind.bind, StateT.bind, Except.bind] at hb
  cases h : x cast with
  | error cause =>
    rw [h] at hb
    cases hb
  | ok answer =>
    obtain ⟨a, middle⟩ := answer
    rw [h] at hb
    obtain ⟨hgrows, ha⟩ := hx cast a middle h
    obtain ⟨hgrows', hb⟩ := hf a ha middle b next hb
    exact ⟨hgrows.trans hgrows', hb⟩

theorem keeps_mapM {γ : Type} {items : List α} {f : α → Naming β} {key : α → γ} {key' : β → γ}
    (h : ∀ a ∈ items, Keeps (f a) fun b => key' b = key a) :
    Keeps (items.mapM f) fun bs => bs.map key' = items.map key := by
  induction items with
  | nil => exact keeps_pure rfl
  | cons a items ih =>
    rw [List.mapM_cons]
    refine (h a List.mem_cons_self).bind fun b hb => ?_
    refine (ih fun a' h' => h a' (List.mem_cons_of_mem a h')).bind fun bs hbs => keeps_pure ?_
    rw [List.map_cons, List.map_cons, hb, hbs]

theorem keeps_fill (text : String) : Keeps (fill text) fun _ => True := by
  intro cast filled next h
  have grows := cast.substitute_grows text
  unfold fill at h
  split at h
  · rename_i heq
    cases h
    rw [heq] at grows
    exact ⟨grows, trivial⟩
  · cases h

theorem keeps_fillProgram (program : Program) :
    Keeps (fillProgram program) fun filled =>
      filled.declared = program.declared ∧ filled.linesByScene = program.linesByScene := by
  have declarations : Keeps (program.characters.mapM fillDeclaration) fun characters =>
      characters.map (·.id) = program.characters.map (·.id) :=
    keeps_mapM fun declaration _ => (keeps_fill _).bind fun _ _ => keeps_pure rfl
  have acts : Keeps (program.acts.mapM fillAct) fun acts =>
      (acts.map fun act => act.scenes.map (·.lines)) = program.acts.map fun act => act.scenes.map (·.lines) := by
    refine keeps_mapM fun act _ => ?_
    have scenes : Keeps (act.scenes.mapM fillScene) fun scenes => scenes.map (·.lines) = act.scenes.map (·.lines) :=
      keeps_mapM fun scene _ => (keeps_fill _).bind fun _ _ => keeps_pure rfl
    exact scenes.bind fun _ h => (keeps_fill _).bind fun _ _ => keeps_pure h
  exact (keeps_fill _).bind fun _ _ => declarations.bind fun _ hc => acts.bind fun _ ha => keeps_pure ⟨hc, ha⟩

/-- **Naming changes free texts only**, and every declared character gets a name of the lexicon. -/
theorem ofProgram_eq_ok {lexicon : Lexicon} {program filled : Program} {cast : Cast}
    (h : ofProgram lexicon program = .ok (filled, cast)) :
    (Cast.ofLexicon lexicon).Grows cast ∧ (∀ id ∈ program.declared, ∃ name, cast.nameOf id = some name) ∧
      filled.declared = program.declared ∧ filled.linesByScene = program.linesByScene := by
  unfold ofProgram at h
  cases hall : (Cast.ofLexicon lexicon).allocateAll (program.characters.map (·.id)) with
  | error cause =>
    rw [hall] at h
    cases h
  | ok declared =>
    rw [hall] at h
    obtain ⟨hgrows, hnamed⟩ := Cast.allocateAll_eq_ok hall
    obtain ⟨hgrows', hcharacters, hlines⟩ := keeps_fillProgram program declared filled cast h
    refine ⟨hgrows.trans hgrows', fun id hid => ?_, hcharacters, hlines⟩
    obtain ⟨name, hname⟩ := hnamed id hid
    exact ⟨name, hgrows'.nameOf hname⟩

end Naming

end Playscript
