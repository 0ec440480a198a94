/-
What can be said of a computation that chooses words, whatever it chooses.

- `Yields x P`: every answer that `x` can give satisfies `P`;
- `Succeeds x A`: `x` has an answer exactly when `A` holds, so the choices do not decide it;
- `Blames x P`: every cause that `x` can fail for satisfies `P`;
- `Uniform R x y`: `x` and `y` fail with the same cause or give answers that `R` relates, whatever either of them draws;
- `Coincide x y`: `x` and `y` draw alike and give the same answer, or fail both.

All five are carried through sequencing, so a property of a composer follows the shape of its definition.
-/
import Playscript.Proofs.Outcome
import Playscript.Vocabulary

namespace Playscript.Choosing

variable {ε ε' α β : Type}

/-- every answer satisfies `P`, whatever is chosen -/
def Yields (x : Choosing ε α) (P : α → Prop) : Prop := ∀ g a, (x g).1 = .ok a → P a

/-- there is an answer exactly when `A` holds, whatever is chosen -/
def Succeeds (x : Choosing ε α) (A : Prop) : Prop := ∀ g, (∃ a, (x g).1 = .ok a) ↔ A

theorem bind_fst_ok {x : Choosing ε α} {f : α → Choosing ε β} {g : Generator} {b : β} :
    ((x >>= f) g).1 = .ok b ↔ ∃ a, (x g).1 = .ok a ∧ (f a (x g).2).1 = .ok b := by
  simp only [bind, ExceptT.bind, ExceptT.mk, StateT.bind]
  cases h : x g with
  | mk answer g' =>
    cases answer with
    | error e =>
      have fails : (ExceptT.bindCont f (.error e) g' : Except ε β × Generator).1 = .error e := rfl
      simp [fails]
    | ok a => simp [ExceptT.bindCont]

theorem adapt_fst (wrap : ε → ε') (x : Choosing ε α) (g : Generator) :
    ((ExceptT.adapt wrap x : Choosing ε' α) g).1 = (x g).1.mapError wrap := rfl

/-! ## Answers -/

theorem Yields.mono {x : Choosing ε α} {P Q : α → Prop} (h : Yields x P) (hPQ : ∀ a, P a → Q a) : Yields x Q :=
  fun g a ha => hPQ a (h g a ha)

theorem yields_pure {P : α → Prop} {a : α} (h : P a) : Yields (pure a : Choosing ε α) P := by
  intro g b hb
  cases hb
  exact h

theorem yields_throw (e : ε) (P : α → Prop) : Yields (throw e : Choosing ε α) P := by
  intro g b hb
  cases hb

theorem Yields.bind {x : Choosing ε α} {f : α → Choosing ε β} {P : α → Prop} {Q : β → Prop} (hx : Yields x P)
    (hf : ∀ a, P a → Yields (f a) Q) : Yields (x >>= f) Q := by
  intro g b hb
  obtain ⟨a, ha, hfa⟩ := bind_fst_ok.1 hb
  exact hf a (hx g a ha) _ b hfa

theorem yields_chooseOr (missing : ε) (words : List String) : Yields (chooseOr missing words) (· ∈ words) := by
  intro g word h
  rcases Generator.choose_fst words g with ⟨-, hnone⟩ | ⟨w, hw, hsome⟩
  · cases hc : Generator.choose words g with
    | mk answer g' => simp_all [chooseOr]
  · cases hc : Generator.choose words g with
    | mk answer g' => simp_all [chooseOr]

theorem Yields.adapt {x : Choosing ε α} {P : α → Prop} (h : Yields x P) (wrap : ε → ε') :
    Yields (ExceptT.adapt wrap x : Choosing ε' α) P := by
  intro g a ha
  refine h g a ?_
  rw [adapt_fst] at ha
  cases hx : (x g).1 with
  | error e => rw [hx] at ha; cases ha
  | ok b => rw [hx] at ha; cases ha; rfl

/-- what every answer for an item satisfies, every one of the answers satisfies -/
theorem yields_mapM_all {items : List α} {f : α → Choosing ε β} {P : β → Prop} (h : ∀ a ∈ items, Yields (f a) P) :
    Yields (items.mapM f) fun bs => ∀ b ∈ bs, P b := by
  induction items with
  | nil => exact yields_pure (by simp)
  | cons a items ih =>
    rw [List.mapM_cons]
    refine (h a List.mem_cons_self).bind fun b hb => ?_
    refine (ih fun a' h' => h a' (List.mem_cons_of_mem a h')).bind fun bs hbs => yields_pure ?_
    exact List.forall_mem_cons.2 ⟨hb, hbs⟩

/-- each answer for an item is understood by `read` as the item's image, so the list of answers is as the list of
images -/
theorem yields_mapM {items : List α} {f : α → Choosing ε β} {γ : Type} {read : β → Except ε' γ} {image : α → γ}
    (h : ∀ a ∈ items, Yields (f a) fun b => read b = .ok (image a)) :
    Yields (items.mapM f) fun bs => bs.mapM read = .ok (items.map image) := by
  induction items with
  | nil => exact yields_pure rfl
  | cons a items ih =>
    rw [List.mapM_cons]
    refine (h a List.mem_cons_self).bind fun b hb => ?_
    refine (ih fun a' h' => h a' (List.mem_cons_of_mem a h')).bind fun bs hbs => ?_
    refine yields_pure ?_
    rw [List.mapM_cons, hb, hbs]
    rfl

/-- the same for items that are numbered as they are written and numbered again as they are read -/
theorem yields_mapM_zipIdx {items : List α} (start : Nat) {f : α → Nat → Choosing ε β} {γ : Type}
    {read : β → Nat → Except ε' γ} {image : α → γ}
    (h : ∀ a ∈ items, ∀ n, Yields (f a n) fun b => read b n = .ok (image a)) :
    Yields ((items.zipIdx start).mapM fun (a, n) => f a n) fun bs =>
      ((bs.zipIdx start).mapM fun (b, n) => read b n) = .ok (items.map image) := by
  induction items generalizing start with
  | nil => exact yields_pure rfl
  | cons a items ih =>
    rw [List.zipIdx_cons, List.mapM_cons]
    refine (h a List.mem_cons_self start).bind fun b hb => ?_
    refine (ih (start + 1) fun a' h' => h a' (List.mem_cons_of_mem a h')).bind fun bs hbs => ?_
    refine yields_pure ?_
    rw [List.zipIdx_cons, List.mapM_cons, hbs]
    simp only [hb]
    rfl

/-! ## Whether there is an answer -/

theorem Succeeds.congr {x : Choosing ε α} {A B : Prop} (h : Succeeds x A) (hAB : A ↔ B) : Succeeds x B :=
  fun g => (h g).trans hAB

theorem succeeds_pure (a : α) : Succeeds (pure a : Choosing ε α) True := fun _ => ⟨fun _ => trivial, fun _ => ⟨a, rfl⟩⟩

theorem succeeds_throw (e : ε) : Succeeds (throw e : Choosing ε α) False := by
  intro g
  refine ⟨fun ⟨a, ha⟩ => ?_, False.elim⟩
  cases ha

theorem Succeeds.bind {x : Choosing ε α} {f : α → Choosing ε β} {A B : Prop} (hx : Succeeds x A)
    (hf : ∀ a, Succeeds (f a) B) : Succeeds (x >>= f) (A ∧ B) := by
  intro g
  constructor
  · rintro ⟨b, hb⟩
    obtain ⟨a, ha, hfa⟩ := bind_fst_ok.1 hb
    exact ⟨(hx g).1 ⟨a, ha⟩, (hf a _).1 ⟨b, hfa⟩⟩
  · rintro ⟨hA, hB⟩
    obtain ⟨a, ha⟩ := (hx g).2 hA
    obtain ⟨b, hb⟩ := (hf a (x g).2).2 hB
    exact ⟨b, bind_fst_ok.2 ⟨a, ha, hb⟩⟩

theorem succeeds_chooseOr (missing : ε) (words : List String) : Succeeds (chooseOr missing words) (words ≠ []) := by
  intro g
  rcases Generator.choose_fst words g with ⟨rfl, -⟩ | ⟨w, hw, hsome⟩
  · simp [chooseOr, Generator.choose]
  · cases hc : Generator.choose words g with
    | mk answer g' =>
      rw [hc] at hsome
      subst hsome
      simp [chooseOr, hc, List.ne_nil_of_mem hw]

theorem Succeeds.adapt {x : Choosing ε α} {A : Prop} (h : Succeeds x A) (wrap : ε → ε') :
    Succeeds (ExceptT.adapt wrap x : Choosing ε' α) A := by
  intro g
  rw [← h g, adapt_fst]
  cases (x g).1 with
  | error e =>
    have fails : (Except.error e : Except ε α).mapError wrap = .error (wrap e) := rfl
    simp [fails]
  | ok a =>
    have yields : (Except.ok a : Except ε α).mapError wrap = .ok a := rfl
    simp [yields]

/-! ## Why there is no answer -/

theorem bind_fst (x : Choosing ε α) (f : α → Choosing ε β) (g : Generator) :
    ((x >>= f) g).1 = match (x g).1 with
      | .ok a => (f a (x g).2).1
      | .error cause => .error cause := by
  simp only [bind, ExceptT.bind, ExceptT.mk, StateT.bind]
  rcases x g with ⟨_ | a, next⟩ <;> rfl

/-- every cause of a failure satisfies `P`, whatever is chosen -/
def Blames (x : Choosing ε α) (P : ε → Prop) : Prop := ∀ g cause, (x g).1 = .error cause → P cause

theorem blames_pure (a : α) (P : ε → Prop) : Blames (pure a : Choosing ε α) P := by
  intro g cause h
  cases h

theorem blames_chooseOr {missing : ε} {P : ε → Prop} (h : P missing) (words : List String) :
    Blames (chooseOr missing words) P := by
  intro g cause hcause
  cases hc : Generator.choose words g with
  | mk answer next =>
    cases answer with
    | some word => simp [chooseOr, hc] at hcause
    | none =>
      have same : missing = cause := by simpa [chooseOr, hc] using hcause
      exact same ▸ h

theorem Blames.bind {x : Choosing ε α} {f : α → Choosing ε β} {P : ε → Prop} (hx : Blames x P)
    (hf : ∀ a, Blames (f a) P) : Blames (x >>= f) P := by
  intro g cause h
  rw [bind_fst] at h
  cases hanswer : (x g).1 with
  | ok a =>
    rw [hanswer] at h
    exact hf a _ cause h
  | error e =>
    rw [hanswer] at h
    cases h
    exact hx g _ hanswer

/-! ## Two computations -/

/-- two computations end alike, whatever either of them draws -/
def Uniform (R : α → β → Prop) (x : Choosing ε α) (y : Choosing ε β) : Prop := ∀ g g', EndAlike R (x g).1 (y g').1

/-- answers of which nothing matters but that there are some -/
def Any (_ : α) (_ : β) : Prop := True

variable {γ δ : Type}

theorem uniform_pure {R : α → β → Prop} {a : α} {b : β} (h : R a b) :
    Uniform R (pure a : Choosing ε α) (pure b : Choosing ε β) := fun _ _ => .answered h

theorem uniform_throw (cause : ε) (R : α → β → Prop) :
    Uniform R (throw cause : Choosing ε α) (throw cause : Choosing ε β) := fun _ _ => .failed cause

theorem Uniform.mono {R S : α → β → Prop} {x : Choosing ε α} {y : Choosing ε β} (h : Uniform R x y)
    (hRS : ∀ a b, R a b → S a b) : Uniform S x y := by
  intro g g'
  have ends := h g g'
  generalize (x g).1 = answer at ends ⊢
  generalize (y g').1 = answer' at ends ⊢
  cases ends with
  | failed cause => exact .failed cause
  | answered hR => exact .answered (hRS _ _ hR)

theorem Uniform.bind {R : α → β → Prop} {Q : γ → δ → Prop} {x : Choosing ε α} {y : Choosing ε β}
    {f : α → Choosing ε γ} {f' : β → Choosing ε δ} (hx : Uniform R x y) (hf : ∀ a b, R a b → Uniform Q (f a) (f' b)) :
    Uniform Q (x >>= f) (y >>= f') := by
  intro g g'
  have ends := hx g g'
  rw [bind_fst, bind_fst]
  generalize (x g).1 = answer at ends ⊢
  generalize (y g').1 = answer' at ends ⊢
  cases ends with
  | failed cause => exact .failed cause
  | answered hR => exact hf _ _ hR _ _

theorem Uniform.adapt {R : α → β → Prop} {x : Choosing ε α} {y : Choosing ε β} (h : Uniform R x y) (wrap : ε → ε') :
    Uniform R (ExceptT.adapt wrap x : Choosing ε' α) (ExceptT.adapt wrap y : Choosing ε' β) := by
  intro g g'
  have ends := h g g'
  rw [adapt_fst, adapt_fst]
  generalize (x g).1 = answer at ends ⊢
  generalize (y g').1 = answer' at ends ⊢
  cases ends with
  | failed cause => exact .failed (wrap cause)
  | answered hR => exact .answered hR

theorem uniform_mapM {items : List α} {R : γ → δ → Prop} {f : α → Choosing ε γ} {f' : α → Choosing ε δ}
    (h : ∀ a ∈ items, Uniform R (f a) (f' a)) : Uniform (List.Forall₂ R) (items.mapM f) (items.mapM f') := by
  induction items with
  | nil => exact uniform_pure .nil
  | cons a items ih =>
    rw [List.mapM_cons, List.mapM_cons]
    refine (h a List.mem_cons_self).bind fun c d hcd => ?_
    refine (ih fun a' h' => h a' (List.mem_cons_of_mem a h')).bind fun cs ds hcds => uniform_pure ?_
    exact .cons hcd hcds

/-- **There is a word or there is none**, whatever is drawn. -/
theorem uniform_chooseOr (missing : ε) (words : List String) :
    Uniform Any (chooseOr missing words) (chooseOr missing words) := by
  intro g g'
  unfold chooseOr
  rcases Generator.choose_fst words g with ⟨rfl, -⟩ | ⟨word, hword, hchoice⟩
  · exact .failed missing
  · rcases Generator.choose_fst words g' with ⟨rfl, -⟩ | ⟨word', -, hchoice'⟩
    · cases hword
    · cases hc : Generator.choose words g with
      | mk answer next =>
        cases hc' : Generator.choose words g' with
        | mk answer' next' =>
          rw [hc] at hchoice
          rw [hc'] at hchoice'
          subst hchoice hchoice'
          exact .answered trivial

/-! ## Computations that draw alike -/

/-- two computations draw and answer alike, and fail alike but for the cause -/
def Coincide (x y : Choosing ε α) : Prop := ∀ g, (x g).1.toOption = (y g).1.toOption ∧ (x g).2 = (y g).2

theorem coincide_refl (x : Choosing ε α) : Coincide x x := fun _ => ⟨rfl, rfl⟩

theorem Coincide.bind {x y : Choosing ε α} {f f' : α → Choosing ε β} (hx : Coincide x y)
    (hf : ∀ a, Coincide (f a) (f' a)) : Coincide (x >>= f) (y >>= f') := by
  intro g
  obtain ⟨hanswer, hnext⟩ := hx g
  simp only [Bind.bind, ExceptT.bind, ExceptT.mk, StateT.bind]
  generalize x g = first at hanswer hnext ⊢
  generalize y g = first' at hanswer hnext ⊢
  obtain ⟨answer, next⟩ := first
  obtain ⟨answer', next'⟩ := first'
  cases hnext
  cases answer with
  | error cause =>
    cases answer' with
    | error cause' => exact ⟨rfl, rfl⟩
    | ok a' => cases hanswer
  | ok a =>
    cases answer' with
    | error cause' => cases hanswer
    | ok a' =>
      cases hanswer
      exact hf a next

theorem coincide_chooseOr (missing missing' : ε) (words : List String) :
    Coincide (chooseOr missing words) (chooseOr missing' words) := by
  intro g
  unfold chooseOr
  rcases Generator.choose words g with ⟨_ | word, next⟩
  · exact ⟨rfl, rfl⟩
  · exact ⟨rfl, rfl⟩

end Playscript.Choosing
