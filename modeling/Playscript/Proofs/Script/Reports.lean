/-
Every defect is reported once, and in order.

- `Enumerates`: a list holds, in the order of their addresses, all things that are somewhere, each once. Lists that are
  put together enumerate what their parts do (`Enumerates.append`, `Enumerates.flatMap`, `Enumerates.filterMap`);
- `Value.Names`, `Statement.Needs`, `Line.Needs`: what stands at an address in a value, a statement and a line, and needs
  to be there in the program;
- `Program.Wrong`, `Program.DefectAt`: what is wrong with it, and with a program;
- `references_enumerates`, `defects_enumerates`: the references and the defects of a program are these;
- `compile_reports`: so compiling a program reports exactly its defects.
-/
import Playscript.Proofs.Script.Formed

namespace Playscript

/-! ## Enumerations -/

section Enumerations

variable {α β : Type}

/-- the list holds whatever is somewhere according to `At`, once for each address, in lexicographic order of these -/
def Enumerates (At : List Nat → α → Prop) (items : List α) : Prop :=
  ∃ found : List (List Nat × α), items = found.map Prod.snd ∧ found.Pairwise (fun a b => a.1 < b.1) ∧
    ∀ address a, (address, a) ∈ found ↔ At address a

variable {At Bt : List Nat → α → Prop} {items others : List α}

theorem Enumerates.congr (h : Enumerates At items) (hiff : ∀ address a, At address a ↔ Bt address a) :
    Enumerates Bt items := by
  obtain ⟨found, hitems, hpairwise, hfound⟩ := h
  exact ⟨found, hitems, hpairwise, fun address a => (hfound address a).trans (hiff address a)⟩

theorem enumerates_nil (h : ∀ address a, ¬ At address a) : Enumerates At [] :=
  ⟨[], rfl, .nil, fun address a => ⟨nofun, fun hat => absurd hat (h address a)⟩⟩

theorem enumerates_singleton (address : List Nat) (a : α) : Enumerates (fun i b => i = address ∧ b = a) [a] :=
  ⟨[(address, a)], rfl, List.pairwise_singleton _ _, fun i b => by rw [List.mem_singleton, Prod.mk.injEq]⟩

/-- what comes first has the lower addresses -/
theorem Enumerates.append (h : Enumerates At items) (ho : Enumerates Bt others)
    (hlt : ∀ i a j b, At i a → Bt j b → i < j) :
    Enumerates (fun address a => At address a ∨ Bt address a) (items ++ others) := by
  obtain ⟨found, rfl, hpairwise, hfound⟩ := h
  obtain ⟨more, rfl, hmore, hothers⟩ := ho
  refine ⟨found ++ more, List.map_append.symm, ?_, fun address a => ?_⟩
  · refine List.pairwise_append.2 ⟨hpairwise, hmore, ?_⟩
    rintro ⟨i, a⟩ hi ⟨j, b⟩ hj
    exact hlt i a j b ((hfound i a).1 hi) ((hothers j b).1 hj)
  · rw [List.mem_append, hfound, hothers]

/-- addresses may be changed if they keep their order -/
theorem Enumerates.reindex (h : Enumerates At items) {f : List Nat → List Nat} (hf : ∀ i j, i < j → f i < f j) :
    Enumerates (fun address a => ∃ i, address = f i ∧ At i a) items := by
  obtain ⟨found, rfl, hpairwise, hfound⟩ := h
  refine ⟨found.map fun item => (f item.1, item.2), ?_, ?_, fun address a => ?_⟩
  · rw [List.map_map]
    rfl
  · exact List.pairwise_map.2 (hpairwise.imp fun hij => hf _ _ hij)
  · constructor
    · intro hmem
      obtain ⟨⟨i, b⟩, hi, heq⟩ := List.mem_map.1 hmem
      cases heq
      exact ⟨i, rfl, (hfound i _).1 hi⟩
    · rintro ⟨i, rfl, hi⟩
      exact List.mem_map.2 ⟨(i, a), (hfound i a).2 hi, rfl⟩

/-- everything below a number -/
theorem Enumerates.below (h : Enumerates At items) (n : Nat) :
    Enumerates (fun address a => ∃ i, address = n :: i ∧ At i a) items :=
  h.reindex fun _ _ hij => List.cons_lt_cons_self.2 hij

/-- what is below the lower of two numbers comes first -/
theorem Enumerates.below_append (h : Enumerates At items) (ho : Enumerates Bt others) {m n : Nat} (hlt : m < n) :
    Enumerates (fun address a => (∃ i, address = m :: i ∧ At i a) ∨ ∃ i, address = n :: i ∧ Bt i a) (items ++ others) := by
  refine (h.below m).append (ho.below n) ?_
  rintro _ _ _ _ ⟨i, rfl, -⟩ ⟨j, rfl, -⟩
  exact List.cons_lt_cons_iff.2 (.inl hlt)

theorem Enumerates.filterMap (h : Enumerates At items) (f : α → Option β) :
    Enumerates (fun address b => ∃ a, At address a ∧ f a = some b) (items.filterMap f) := by
  obtain ⟨found, rfl, hpairwise, hfound⟩ := h
  refine ⟨found.filterMap fun item => (f item.2).map (item.1, ·), ?_, ?_, fun address b => ?_⟩
  · rw [List.filterMap_map, List.map_filterMap]
    refine List.filterMap_congr fun item _ => ?_
    rw [Option.map_map]
    exact (Option.map_id' (x := f item.2)).symm
  · refine List.pairwise_filterMap.2 (hpairwise.imp fun {a a'} hlt b hb b' hb' => ?_)
    obtain ⟨_, -, rfl⟩ := Option.map_eq_some_iff.1 hb
    obtain ⟨_, -, rfl⟩ := Option.map_eq_some_iff.1 hb'
    exact hlt
  · constructor
    · intro hmem
      obtain ⟨⟨i, a⟩, hi, heq⟩ := List.mem_filterMap.1 hmem
      obtain ⟨b', hb, heq⟩ := Option.map_eq_some_iff.1 heq
      cases heq
      exact ⟨a, (hfound i a).1 hi, hb⟩
    · rintro ⟨a, hat, hb⟩
      exact List.mem_filterMap.2 ⟨(address, a), (hfound address a).2 hat, by rw [hb]; rfl⟩

theorem Enumerates.map (h : Enumerates At items) (f : α → β) :
    Enumerates (fun address b => ∃ a, At address a ∧ f a = b) (items.map f) := by
  rw [← List.filterMap_eq_map]
  exact (h.filterMap (some ∘ f)).congr fun address b => by simp

/-- the items of a list have addresses that begin with their numbers, counted from `n` -/
theorem enumerates_flatMap_from (as : List β) {f : β → List α} {At : β → List Nat → α → Prop}
    (h : ∀ b ∈ as, Enumerates (At b) (f b)) (n : Nat) :
    Enumerates (fun address a => ∃ k b i, address = (n + k) :: i ∧ as[k]? = some b ∧ At b i a) (as.flatMap f) := by
  induction as generalizing n with
  | nil => exact enumerates_nil fun address a => by simp
  | cons b as ih =>
    have first := (h b List.mem_cons_self).below n
    have rest := ih (fun b hb => h b (List.mem_cons_of_mem _ hb)) (n + 1)
    rw [List.flatMap_cons]
    refine (first.append rest ?_).congr fun address a => ?_
    · rintro _ a _ a' ⟨i, rfl, -⟩ ⟨k, b, j, rfl, -⟩
      exact List.cons_lt_cons_iff.2 (.inl (by omega))
    · constructor
      · rintro (⟨i, rfl, hat⟩ | ⟨k, b', i, rfl, hb', hat⟩)
        · exact ⟨0, b, i, rfl, rfl, hat⟩
        · exact ⟨k + 1, b', i, by rw [Nat.add_right_comm, Nat.add_assoc], hb', hat⟩
      · rintro ⟨k, b', i, rfl, hb', hat⟩
        cases k with
        | zero =>
          cases hb'
          exact .inl ⟨i, rfl, hat⟩
        | succ k => exact .inr ⟨k, b', i, by rw [Nat.add_right_comm, Nat.add_assoc], hb', hat⟩

theorem enumerates_flatMap (as : List β) {f : β → List α} {At : β → List Nat → α → Prop}
    (h : ∀ b ∈ as, Enumerates (At b) (f b)) :
    Enumerates (fun address a => ∃ k b i, address = k :: i ∧ as[k]? = some b ∧ At b i a) (as.flatMap f) := by
  have from_zero := enumerates_flatMap_from as h 0
  simpa only [Nat.zero_add] using from_zero

/-- the items of a list, each by its number -/
theorem enumerates_items (as : List α) : Enumerates (fun address a => ∃ k, address = [k] ∧ as[k]? = some a) as := by
  have each := enumerates_flatMap as (f := fun a => [a]) fun a _ => enumerates_singleton [] a
  rw [List.flatMap_singleton'] at each
  refine each.congr fun address a => ?_
  constructor
  · rintro ⟨k, b, _, rfl, hb, rfl, rfl⟩
    exact ⟨k, rfl, hb⟩
  · rintro ⟨k, rfl, ha⟩
    exact ⟨k, a, [], rfl, ha, rfl, rfl⟩

end Enumerations

/-! ## What is needed where -/

/-- an identifier stands at the end of a path through a value; `0` goes on to the left or the only operand, `1` to the
right one -/
inductive Value.Names : Value → List Nat → Ident → Prop
  | character (id : Ident) : Names (.character id) [] id
  | left {op : BinaryOp} {lhs rhs : Value} {path : List Nat} {id : Ident} :
    Names lhs path id → Names (.binary op lhs rhs) (0 :: path) id
  | right {op : BinaryOp} {lhs rhs : Value} {path : List Nat} {id : Ident} :
    Names rhs path id → Names (.binary op lhs rhs) (1 :: path) id
  | operand {op : UnaryOp} {operand : Value} {path : List Nat} {id : Ident} :
    Names operand path id → Names (.unary op operand) (0 :: path) id

/-- something stands at the end of a path through a statement that no conditional guards it with; `0` goes on to the
left value of a comparison, `1` to the right one, and a conditional is not entered -/
inductive Statement.Needs : Statement → List Nat → Reference → Prop
  | assign {value : Value} {path : List Nat} {id : Ident} :
    value.Names path id → Needs (.assign value) path (.character id)
  | remember {value : Value} {path : List Nat} {id : Ident} :
    value.Names path id → Needs (.remember value) path (.character id)
  | left {c : Comparison} {path : List Nat} {id : Ident} :
    c.lhs.Names path id → Needs (.compare c) (0 :: path) (.character id)
  | right {c : Comparison} {path : List Nat} {id : Ident} :
    c.rhs.Names path id → Needs (.compare c) (1 :: path) (.character id)
  | jump (target : JumpTarget) : Needs (.jump target) [] (.scene target)
  | nested (polarity : Bool) (body : Statement) : Needs (.conditional polarity body) [] .nested

/-- something stands at the end of a path through a line: `k` goes on to the `k`th character of a direction; in a speech
`0` goes on to the speaker and `k + 1` to the `k`th statement, or to what that statement guards -/
inductive Line.Needs : Line → List Nat → Reference → Prop
  | direction {d : StageDirection} {k : Nat} {id : Ident} :
    d.mentions[k]? = some id → Needs (.direction d) [k] (.character id)
  | speaker (speaker : Ident) (statements : List Statement) :
    Needs (.speech speaker statements) [0] (.character speaker)
  | simple {speaker : Ident} {statements : List Statement} {k : Nat} {s : Statement} {path : List Nat}
    {reference : Reference} : statements[k]? = some s → s.isConditional = false → s.Needs path reference →
    Needs (.speech speaker statements) ((k + 1) :: path) reference
  | guarded {speaker : Ident} {statements : List Statement} {k : Nat} {polarity : Bool} {body : Statement}
    {path : List Nat} {reference : Reference} : statements[k]? = some (.conditional polarity body) →
    body.Needs path reference → Needs (.speech speaker statements) ((k + 1) :: path) reference

namespace Program

/-- what is wrong with something that is needed in a scene -/
inductive Wrong (program : Program) (place : Location) : Reference → Defect → Prop
  | unknown {id : Ident} : id ∉ program.declared → Wrong program place (.character id) (.unknownCharacter place id)
  | act {target : JumpTarget} {act : Nat} : target.act.getD place.act = act →
    (∀ i < program.acts.length, act ≠ i + 1) → Wrong program place (.scene target) (.missingAct place act)
  | scene {target : JumpTarget} {i : Nat} {act : Act} : target.act.getD place.act = i + 1 →
    program.acts[i]? = some act → (∀ j < act.scenes.length, target.scene ≠ j + 1) →
    Wrong program place (.scene target) (.missingScene place (i + 1) target.scene)
  | nested : Wrong program place .nested (.nestedConditional place)

/-- something is wrong at an address: `[0, k]` is that of the `k`th declaration, and `1` goes on to the act, the scene
and the line, all counted from zero, and through the line. Places are counted from one. -/
inductive DefectAt (program : Program) : List Nat → Defect → Prop
  | repeated {i k : Nat} {id : Ident} : i < k → program.declared[i]? = some id → program.declared[k]? = some id →
    DefectAt program [0, k] (.duplicateCharacter id)
  | line {i j k : Nat} {act : Act} {scene : Scene} {line : Line} {path : List Nat} {reference : Reference}
    {defect : Defect} : program.acts[i]? = some act → act.scenes[j]? = some scene → scene.lines[k]? = some line →
    line.Needs path reference → program.Wrong ⟨i + 1, j + 1⟩ reference defect →
    DefectAt program (1 :: i :: j :: k :: path) defect

end Program

/-! ## References -/

theorem Value.mentions_enumerates (value : Value) : Enumerates value.Names value.mentions := by
  induction value with
  | constant n => exact enumerates_nil fun _ _ => nofun
  | role role => exact enumerates_nil fun _ _ => nofun
  | character id =>
    refine (enumerates_singleton [] id).congr fun path other => ⟨?_, fun h => ?_⟩
    · rintro ⟨rfl, rfl⟩
      exact .character _
    · cases h
      exact ⟨rfl, rfl⟩
  | unary op operand ih =>
    refine (ih.below 0).congr fun path id => ⟨?_, fun h => ?_⟩
    · rintro ⟨path, rfl, h⟩
      exact .operand h
    · cases h with
      | operand h => exact ⟨_, rfl, h⟩
  | binary op lhs rhs ihl ihr =>
    refine (ihl.below_append ihr Nat.zero_lt_one).congr fun path id => ⟨?_, fun h => ?_⟩
    · rintro (⟨path, rfl, h⟩ | ⟨path, rfl, h⟩)
      · exact .left h
      · exact .right h
    · cases h with
      | left h => exact .inl ⟨_, rfl, h⟩
      | right h => exact .inr ⟨_, rfl, h⟩

theorem Statement.bodyReferences_enumerates (s : Statement) : Enumerates s.Needs s.bodyReferences := by
  cases s with
  | input channel => exact enumerates_nil fun _ _ => nofun
  | output channel => exact enumerates_nil fun _ _ => nofun
  | «recall» => exact enumerates_nil fun _ _ => nofun
  | assign value =>
    refine (value.mentions_enumerates.map Reference.character).congr fun path reference => ⟨?_, fun h => ?_⟩
    · rintro ⟨id, h, rfl⟩
      exact .assign h
    · cases h with
      | assign h => exact ⟨_, h, rfl⟩
  | remember value =>
    refine (value.mentions_enumerates.map Reference.character).congr fun path reference => ⟨?_, fun h => ?_⟩
    · rintro ⟨id, h, rfl⟩
      exact .remember h
    · cases h with
      | remember h => exact ⟨_, h, rfl⟩
  | compare c =>
    have both := c.lhs.mentions_enumerates.below_append c.rhs.mentions_enumerates Nat.zero_lt_one
    refine (both.map Reference.character).congr fun path reference => ⟨?_, fun h => ?_⟩
    · rintro ⟨id, ⟨path, rfl, h⟩ | ⟨path, rfl, h⟩, rfl⟩
      · exact .left h
      · exact .right h
    · cases h with
      | left h => exact ⟨_, .inl ⟨_, rfl, h⟩, rfl⟩
      | right h => exact ⟨_, .inr ⟨_, rfl, h⟩, rfl⟩
  | jump target =>
    refine (enumerates_singleton [] (Reference.scene target)).congr fun path reference => ⟨?_, fun h => ?_⟩
    · rintro ⟨rfl, rfl⟩
      exact .jump target
    · cases h
      exact ⟨rfl, rfl⟩
  | conditional polarity body =>
    refine (enumerates_singleton [] Reference.nested).congr fun path reference => ⟨?_, fun h => ?_⟩
    · rintro ⟨rfl, rfl⟩
      exact .nested polarity body
    · cases h
      exact ⟨rfl, rfl⟩

/-- a statement refers to what it needs, or to what the statement needs that it guards -/
theorem Statement.references_enumerates (s : Statement) :
    Enumerates (fun path reference => (s.isConditional = false ∧ s.Needs path reference) ∨
      ∃ polarity body, s = .conditional polarity body ∧ body.Needs path reference) s.references := by
  cases hs : s.isConditional with
  | false =>
    have same : s.references = s.bodyReferences := by
      cases s with
      | conditional polarity body => cases hs
      | _ => rfl
    rw [same]
    refine s.bodyReferences_enumerates.congr fun path reference => ⟨fun h => .inl ⟨rfl, h⟩, ?_⟩
    rintro (⟨-, h⟩ | ⟨polarity, body, rfl, -⟩)
    · exact h
    · cases hs
  | true =>
    cases s with
    | conditional polarity body =>
      refine body.bodyReferences_enumerates.congr fun path reference => ⟨fun h => .inr ⟨_, _, rfl, h⟩, ?_⟩
      rintro (⟨hfalse, -⟩ | ⟨polarity', body', heq, h⟩)
      · cases hfalse
      · cases heq
        exact h
    | _ => cases hs

theorem Line.references_enumerates (line : Line) : Enumerates line.Needs line.references := by
  cases line with
  | direction d =>
    refine ((enumerates_items d.mentions).map Reference.character).congr fun path reference => ⟨?_, fun h => ?_⟩
    · rintro ⟨id, ⟨k, rfl, hid⟩, rfl⟩
      exact .direction hid
    · cases h with
      | direction hid => exact ⟨_, ⟨_, rfl, hid⟩, rfl⟩
  | speech speaker statements =>
    have first := enumerates_singleton [0] (Reference.character speaker)
    have rest := enumerates_flatMap_from statements (fun s _ => s.references_enumerates) 1
    refine (first.append rest ?_).congr fun path reference => ⟨?_, fun h => ?_⟩
    · rintro _ _ _ _ ⟨rfl, -⟩ ⟨k, s, i, rfl, -⟩
      exact List.cons_lt_cons_iff.2 (.inl (by omega))
    · rintro (⟨rfl, rfl⟩ | ⟨k, s, i, rfl, hs, ⟨hsimple, h⟩ | ⟨polarity, body, rfl, h⟩⟩)
      · exact .speaker speaker statements
      · exact Nat.add_comm 1 k ▸ .simple hs hsimple h
      · exact Nat.add_comm 1 k ▸ .guarded hs h
    · cases h with
      | speaker => exact .inl ⟨rfl, rfl⟩
      | @simple _ _ k s i _ hs hsimple h =>
        exact .inr ⟨k, s, i, by rw [Nat.add_comm], hs, .inl ⟨hsimple, h⟩⟩
      | @guarded _ _ k polarity body i _ hs h =>
        exact .inr ⟨k, _, i, by rw [Nat.add_comm], hs, .inr ⟨polarity, body, rfl, h⟩⟩

namespace Program

variable (program : Program)

/-- **The references of a program** are those of its lines, each with its place. -/
theorem references_enumerates : Enumerates (fun address item => ∃ i j k path act scene line,
    address = i :: j :: k :: path ∧ program.acts[i]? = some act ∧ act.scenes[j]? = some scene ∧
      scene.lines[k]? = some line ∧ item.1 = ⟨i + 1, j + 1⟩ ∧ line.Needs path item.2) program.references := by
  have scenes : ∀ act : Act, ∀ a : Nat, ∀ item ∈ act.scenes.zipIdx 1, Enumerates _
      (item.1.references.map ((⟨a, item.2⟩, ·) : Reference → Location × Reference)) :=
    fun act a item _ => (enumerates_flatMap _ fun line _ => line.references_enumerates).map _
  have acts : ∀ item ∈ program.acts.zipIdx 1, Enumerates _ ((item.1.scenes.zipIdx 1).flatMap fun numbered =>
      numbered.1.references.map ((⟨item.2, numbered.2⟩, ·) : Reference → Location × Reference)) :=
    fun item _ => enumerates_flatMap _ (scenes item.1 item.2)
  refine (enumerates_flatMap _ acts).congr fun address item => ⟨?_, ?_⟩
  · rintro ⟨i, ⟨act, a⟩, _, rfl, hact, j, ⟨scene, s⟩, _, rfl, hscene, reference, ⟨k, line, path, rfl, hline, h⟩, rfl⟩
    rw [List.getElem?_zipIdx, Option.map_eq_some_iff] at hact hscene
    obtain ⟨_, hact, heq⟩ := hact
    cases heq
    obtain ⟨_, hscene, heq⟩ := hscene
    cases heq
    exact ⟨i, j, k, path, act, scene, line, rfl, hact, hscene, hline, by rw [Nat.add_comm 1 i, Nat.add_comm 1 j], h⟩
  · rintro ⟨i, j, k, path, act, scene, line, rfl, hact, hscene, hline, hplace, h⟩
    refine ⟨i, (act, 1 + i), _, rfl, by rw [List.getElem?_zipIdx, hact]; rfl, j, (scene, 1 + j), _, rfl,
      by rw [List.getElem?_zipIdx, hscene]; rfl, item.2, ⟨k, line, path, rfl, hline, h⟩, ?_⟩
    rw [Nat.add_comm 1 i, Nat.add_comm 1 j, ← hplace]

/-! ## Defects -/

theorem scenesOf?_eq_some {act : Nat} {scenes : List Scene} :
    program.scenesOf? act = some scenes ↔ ∃ i a, act = i + 1 ∧ program.acts[i]? = some a ∧ a.scenes = scenes := by
  cases act with
  | zero => simp [scenesOf?]
  | succ i => simp [scenesOf?]

theorem scenesOf?_eq_none {act : Nat} :
    program.scenesOf? act = none ↔ ∀ i < program.acts.length, act ≠ i + 1 := by
  cases act with
  | zero => simp [scenesOf?]
  | succ i =>
    rw [scenesOf?, Option.map_eq_none_iff, List.getElem?_eq_none_iff]
    constructor
    · intro hle j hj he
      omega
    · intro h
      exact Nat.le_of_not_lt fun hlt => h i hlt rfl

theorem jumpDefect?_eq_some {place : Location} {target : JumpTarget} {defect : Defect} :
    program.jumpDefect? place target = some defect ↔ program.Wrong place (.scene target) defect := by
  unfold jumpDefect? JumpTarget.actFrom
  cases hscenes : program.scenesOf? (target.act.getD place.act) with
  | none =>
    have missing := program.scenesOf?_eq_none.1 hscenes
    constructor
    · intro h
      cases h
      exact .act rfl missing
    · intro h
      cases h with
      | act hact => exact hact ▸ rfl
      | scene hact hfound =>
        exact absurd hact (missing _ (List.getElem?_eq_some_iff.1 hfound).1)
  | some scenes =>
    obtain ⟨i, act, hact, hfound, rfl⟩ := program.scenesOf?_eq_some.1 hscenes
    dsimp only
    have here : (1 ≤ target.scene ∧ target.scene ≤ act.scenes.length) ↔ ∃ j < act.scenes.length, target.scene = j + 1 :=
      ⟨fun h => ⟨target.scene - 1, by omega, by omega⟩, fun ⟨j, hj, he⟩ => by omega⟩
    by_cases hscene : 1 ≤ target.scene ∧ target.scene ≤ act.scenes.length
    · obtain ⟨j, hj, htarget⟩ := here.1 hscene
      rw [if_pos hscene]
      refine ⟨nofun, fun h => ?_⟩
      cases h with
      | act hact' hmissing =>
        exact absurd (hact'.symm.trans hact) (hmissing i (List.getElem?_eq_some_iff.1 hfound).1)
      | scene hact' hfound' hmissing =>
        cases Nat.succ.inj (hact.symm.trans hact')
        cases hfound.symm.trans hfound'
        exact absurd htarget (hmissing j hj)
    · rw [if_neg hscene]
      have missing : ∀ j < act.scenes.length, target.scene ≠ j + 1 := fun j hj he => hscene (here.2 ⟨j, hj, he⟩)
      constructor
      · intro h
        cases h
        exact hact ▸ .scene hact hfound missing
      · intro h
        cases h with
        | act hact' hmissing =>
          exact absurd (hact'.symm.trans hact) (hmissing i (List.getElem?_eq_some_iff.1 hfound).1)
        | scene hact' => rw [hact']

theorem defect?_eq_some {place : Location} {reference : Reference} {defect : Defect} :
    program.defect? (place, reference) = some defect ↔ program.Wrong place reference defect := by
  cases reference with
  | scene target => exact program.jumpDefect?_eq_some
  | nested =>
    constructor
    · intro h
      cases h
      exact .nested
    · intro h
      cases h
      rfl
  | character id =>
    rw [defect?]
    by_cases hid : id ∈ program.declared
    · rw [if_pos hid]
      refine ⟨fun h => (by cases h), fun h => ?_⟩
      cases h with
      | unknown hunknown => exact absurd hid hunknown
    · rw [if_neg hid]
      constructor
      · intro h
        cases h
        exact .unknown hid
      · intro h
        cases h
        rfl

end Program

/-- among a list that goes on after `id`, what has been seen is `id` or was seen before it -/
theorem seen_or_earlier {seen ids : List Ident} {id other : Ident} {k : Nat} :
    (other ∈ seen ∨ ∃ i < k + 1, (id :: ids)[i]? = some other) ↔ other ∈ id :: seen ∨ ∃ i < k, ids[i]? = some other := by
  constructor
  · rintro (hseen | ⟨i, hi, hother⟩)
    · exact .inl (List.mem_cons_of_mem _ hseen)
    · cases i with
      | zero =>
        cases hother
        exact .inl List.mem_cons_self
      | succ i => exact .inr ⟨i, Nat.lt_of_succ_lt_succ hi, hother⟩
  · rintro (hseen | ⟨i, hi, hother⟩)
    · rcases List.mem_cons.1 hseen with rfl | hseen
      · exact .inr ⟨0, Nat.succ_pos k, rfl⟩
      · exact .inl hseen
    · exact .inr ⟨i + 1, Nat.succ_lt_succ hi, hother⟩

/-- identifiers are repeated where they have been seen or stand earlier in the list -/
theorem repeated_enumerates (seen ids : List Ident) (n : Nat) :
    Enumerates (fun address id => ∃ k, address = [n + k] ∧ ids[k]? = some id ∧
      (id ∈ seen ∨ ∃ i < k, ids[i]? = some id)) (repeated seen ids) := by
  induction ids generalizing seen n with
  | nil => exact enumerates_nil fun _ _ => by simp
  | cons id ids ih =>
    have shift : ∀ k, [n + 1 + k] = [n + (k + 1)] := fun k => by rw [Nat.add_assoc, Nat.add_comm 1 k]
    rw [repeated]
    split
    · rename_i hid
      have same : ∀ other, other ∈ id :: seen ↔ other ∈ seen := fun other =>
        ⟨fun h => (List.mem_cons.1 h).elim (· ▸ hid) fun h => h, List.mem_cons_of_mem _⟩
      refine ((enumerates_singleton [n] id).append (ih seen (n + 1)) ?_).congr fun address other => ⟨?_, ?_⟩
      · rintro _ _ _ _ ⟨rfl, -⟩ ⟨k, rfl, -⟩
        exact List.cons_lt_cons_iff.2 (.inl (by omega))
      · rintro (⟨rfl, rfl⟩ | ⟨k, rfl, hk, hseen⟩)
        · exact ⟨0, rfl, rfl, .inl hid⟩
        · exact ⟨k + 1, shift k, hk, seen_or_earlier.2 (hseen.imp_left (same other).2)⟩
      · rintro ⟨k, rfl, hk, hseen⟩
        cases k with
        | zero =>
          cases hk
          exact .inl ⟨rfl, rfl⟩
        | succ k => exact .inr ⟨k, (shift k).symm, hk, (seen_or_earlier.1 hseen).imp_left (same other).1⟩
    · rename_i hid
      refine (ih (id :: seen) (n + 1)).congr fun address other => ⟨?_, ?_⟩
      · rintro ⟨k, rfl, hk, hseen⟩
        exact ⟨k + 1, shift k, hk, seen_or_earlier.2 hseen⟩
      · rintro ⟨k, rfl, hk, hseen⟩
        cases k with
        | zero =>
          cases hk
          rcases hseen with hseen | ⟨i, hi, -⟩
          · exact absurd hseen hid
          · exact absurd hi (Nat.not_lt_zero i)
        | succ k => exact ⟨k, (shift k).symm, hk, seen_or_earlier.1 hseen⟩

namespace Program

/-- **The defects of a program** are what is wrong at an address, in order. -/
theorem defects_enumerates (program : Program) : Enumerates program.DefectAt program.defects := by
  have twice := (repeated_enumerates [] program.declared 0).map Defect.duplicateCharacter
  have wrong := program.references_enumerates.filterMap program.defect?
  refine (twice.below_append wrong Nat.zero_lt_one).congr fun address defect => ⟨?_, fun h => ?_⟩
  · rintro (⟨_, rfl, id, ⟨k, rfl, hk, hearlier⟩, rfl⟩ |
      ⟨_, rfl, ⟨place, reference⟩, ⟨i, j, k, path, act, scene, line, rfl, hact, hscene, hline, hplace, h⟩, hdefect⟩)
    · obtain ⟨i, hi, hid⟩ := hearlier.resolve_left List.not_mem_nil
      rw [Nat.zero_add]
      exact .repeated hi hid hk
    · cases hplace
      exact .line hact hscene hline h (program.defect?_eq_some.1 hdefect)
  · cases h with
    | @repeated i k id hi hid hk => exact .inl ⟨[k], rfl, id, ⟨k, by rw [Nat.zero_add], hk, .inr ⟨i, hi, hid⟩⟩, rfl⟩
    | @line i j k act scene line path reference defect hact hscene hline h hwrong =>
      exact .inr ⟨_, rfl, (⟨i + 1, j + 1⟩, reference), ⟨i, j, k, path, act, scene, line, rfl, hact, hscene, hline, rfl, h⟩,
        program.defect?_eq_some.2 hwrong⟩

/-- **Compiling reports exactly the defects.** A program has a script exactly when every character is declared once,
whoever is mentioned by a direction, as a speaker or in a value is declared, every jump names an act that is there, its
own if it names none, and a scene of that act, and no conditional guards another one. Otherwise there are reports, one
for each defect and in order: first the declarations that repeat an earlier one, and then, as they stand in the program,
what is needed and is not there, with the act and the scene where it is needed. -/
theorem compile_reports (program : Program) :
    ((∃ script, program.compile = .ok script) ↔ program.Performable) ∧
      ∀ defects, program.compile = .error defects → defects ≠ [] ∧ Enumerates program.DefectAt defects := by
  refine ⟨?_, fun defects hcompile => ?_⟩
  · rw [← sound_iff_performable, ← defects_eq_nil_iff]
    constructor
    · rintro ⟨script, hcompile⟩
      exact (compile_eq_ok_iff.1 hcompile).1
    · exact fun hnil => ⟨program.lower, compile_eq_ok_iff.2 ⟨hnil, rfl⟩⟩
  · unfold compile at hcompile
    split at hcompile
    · cases hcompile
    · rename_i hne
      cases hcompile
      exact ⟨hne, program.defects_enumerates⟩

/-- two are declared under one name, a stranger speaks and is spoken of, and wherever the play is to go on there is
nothing -/
def muddle : Program where
  title := "A muddle"
  characters := [⟨⟨"host"⟩, "who knows nobody"⟩, ⟨⟨"guest"⟩, "who is known to nobody"⟩, ⟨⟨"host"⟩, "again"⟩]
  acts := [
    ⟨"The hall", []⟩,
    ⟨"The parlour", [⟨"Tea", [
      .direction (.enter [⟨"host"⟩, ⟨"shade"⟩]),
      .speech ⟨"shade"⟩ [
        .compare ⟨.less, false, .binary .add (.character ⟨"cook"⟩) (.character ⟨"host"⟩),
          .unary .square (.character ⟨"maid"⟩)⟩,
        .conditional true (.conditional false (.assign (.character ⟨"cook"⟩))),
        .conditional false (.jump ⟨none, 2⟩), .jump ⟨some 0, 1⟩, .jump ⟨some 1, 1⟩]]⟩]⟩]

theorem compile_reports_muddle :
    let here : Location := ⟨2, 1⟩
    let reports := [.duplicateCharacter ⟨"host"⟩, .unknownCharacter here ⟨"shade"⟩, .unknownCharacter here ⟨"shade"⟩,
      .unknownCharacter here ⟨"cook"⟩, .unknownCharacter here ⟨"maid"⟩, .nestedConditional here,
      .missingScene here 2 2, .missingAct here 0, .missingScene here 1 1]
    muddle.compile = .error reports ∧ Enumerates muddle.DefectAt reports := by
  have hcompile : muddle.compile = .error [.duplicateCharacter ⟨"host"⟩, .unknownCharacter ⟨2, 1⟩ ⟨"shade"⟩,
      .unknownCharacter ⟨2, 1⟩ ⟨"shade"⟩, .unknownCharacter ⟨2, 1⟩ ⟨"cook"⟩, .unknownCharacter ⟨2, 1⟩ ⟨"maid"⟩,
      .nestedConditional ⟨2, 1⟩, .missingScene ⟨2, 1⟩ 2 2, .missingAct ⟨2, 1⟩ 0, .missingScene ⟨2, 1⟩ 1 1] := by
    decide
  exact ⟨hcompile, ((compile_reports muddle).2 _ hcompile).2⟩

end Program

end Playscript
