/-
Computations that give an answer or fail.

- `bind_eq_ok`: an answer of two steps taken apart;
- `Gives x P`: the answer, if there is one, satisfies `P`; with rules for steps in a row and for lists;
- `Refines`: whatever the first of two computations answers, the second answers too, with a related answer; the rules
  for steps in a row (`Refines.bind`, `Refines.step`) and for lists (`Refines.mapM`) follow the shape of the
  computations;
- `EndAlike`: two computations fail with the same cause, or answer, and the answers are related.
-/
import Mathlib.Data.List.Forall2

namespace Playscript

variable {ε ε' α β γ δ : Type}

/-- an answer of two steps is an answer of the second to an answer of the first -/
theorem bind_eq_ok {x : Except ε α} {f : α → Except ε β} {b : β} :
    (x >>= f) = .ok b ↔ ∃ a, x = .ok a ∧ f a = .ok b := by
  cases x with
  | ok a => simp [bind, Except.bind]
  | error cause => simp [bind, Except.bind]

/-- answers can be compared where errors cannot -/
theorem eq_ok_of_toOption {x : Except ε α} {a : α} (h : x.toOption = some a) : x = .ok a := by
  cases x with
  | ok b => exact congrArg Except.ok (Option.some.inj h)
  | error cause => cases h

/-! ## Answers of one computation -/

/-- the answer, if there is one, satisfies `P` -/
def Gives (x : Except ε α) (P : α → Prop) : Prop := ∀ a, x = .ok a → P a

theorem gives_ok {P : α → Prop} {a : α} (h : P a) : Gives (.ok a : Except ε α) P := by
  intro _ ha
  cases ha
  exact h

theorem gives_error (cause : ε) (P : α → Prop) : Gives (.error cause) P := nofun

theorem Gives.mono {x : Except ε α} {P Q : α → Prop} (h : Gives x P) (hPQ : ∀ a, P a → Q a) : Gives x Q :=
  fun a ha => hPQ a (h a ha)

theorem Gives.bind {x : Except ε α} {f : α → Except ε β} {P : α → Prop} {Q : β → Prop} (hx : Gives x P)
    (hf : ∀ a, P a → Gives (f a) Q) : Gives (x >>= f) Q := by
  intro b hb
  obtain ⟨a, ha, hfa⟩ := bind_eq_ok.1 hb
  exact hf a (hx a ha) b hfa

/-- a first step of which nothing matters but that it answers -/
theorem gives_after (x : Except ε α) {f : α → Except ε β} {Q : β → Prop} (hf : ∀ a, Gives (f a) Q) :
    Gives (x >>= f) Q := by
  have anything : Gives x fun _ => True := fun _ _ => trivial
  exact anything.bind fun a _ => hf a

theorem gives_mapM {items : List α} {f : α → Except ε β} {P : β → Prop} (h : ∀ a ∈ items, Gives (f a) P) :
    Gives (items.mapM f) fun bs => ∀ b ∈ bs, P b := by
  induction items with
  | nil => exact gives_ok nofun
  | cons a items ih =>
    rw [List.mapM_cons]
    refine (h a List.mem_cons_self).bind fun b hb => ?_
    refine (ih fun a' h' => h a' (List.mem_cons_of_mem a h')).bind fun bs hbs => gives_ok ?_
    exact List.forall_mem_cons.2 ⟨hb, hbs⟩

/-! ## Two computations -/

/-- the second computation answers whenever the first does, with a related answer -/
def Refines (R : α → β → Prop) (x : Except ε α) (y : Except ε' β) : Prop := ∀ a, x = .ok a → ∃ b, y = .ok b ∧ R a b

/-- two answers that are the same and have a property -/
def Agree (P : α → Prop) (a b : α) : Prop := a = b ∧ P a

theorem refines_ok {R : α → β → Prop} {a : α} {b : β} (h : R a b) :
    Refines R (.ok a : Except ε α) (.ok b : Except ε' β) := by
  intro _ ha
  cases ha
  exact ⟨b, rfl, h⟩

theorem refines_error {R : α → β → Prop} (cause : ε) (y : Except ε' β) : Refines R (.error cause) y := nofun

theorem Refines.mono {R Q : α → β → Prop} {x : Except ε α} {y : Except ε' β} (h : Refines R x y)
    (hRQ : ∀ a b, R a b → Q a b) : Refines Q x y := by
  intro a ha
  obtain ⟨b, hb, hR⟩ := h a ha
  exact ⟨b, hb, hRQ a b hR⟩

theorem Refines.bind {R : α → β → Prop} {Q : γ → δ → Prop} {x : Except ε α} {y : Except ε' β} {f : α → Except ε γ}
    {g : β → Except ε' δ} (hx : Refines R x y) (hf : ∀ a b, R a b → Refines Q (f a) (g b)) :
    Refines Q (x >>= f) (y >>= g) := by
  intro c hc
  obtain ⟨a, ha, hfa⟩ := bind_eq_ok.1 hc
  obtain ⟨b, hb, hR⟩ := hx a ha
  obtain ⟨d, hd, hQ⟩ := hf a b hR c hfa
  exact ⟨d, bind_eq_ok.2 ⟨b, hb, hd⟩, hQ⟩

/-- a first step with the same answer on both sides -/
theorem Refines.step {P : α → Prop} {Q : γ → δ → Prop} {x : Except ε α} {y : Except ε' α} {f : α → Except ε γ}
    {g : α → Except ε' δ} (hx : Refines (Agree P) x y) (hf : ∀ a, P a → Refines Q (f a) (g a)) :
    Refines Q (x >>= f) (y >>= g) :=
  hx.bind fun a _ h => h.1 ▸ hf a h.2

/-- a first step that is the same on both sides -/
theorem refines_same {Q : γ → δ → Prop} (x : Except ε α) {f : α → Except ε γ} {g : α → Except ε δ}
    (hf : ∀ a, Refines Q (f a) (g a)) : Refines Q (x >>= f) (x >>= g) := by
  cases x with
  | ok a => exact hf a
  | error cause => exact refines_error cause _

theorem Refines.mapM {items : List α} {R : γ → δ → Prop} {f : α → Except ε γ} {g : α → Except ε' δ}
    (h : ∀ a ∈ items, Refines R (f a) (g a)) : Refines (List.Forall₂ R) (items.mapM f) (items.mapM g) := by
  induction items with
  | nil => exact refines_ok .nil
  | cons a items ih =>
    rw [List.mapM_cons, List.mapM_cons]
    refine (h a List.mem_cons_self).bind fun c d hcd => ?_
    refine (ih fun a' h' => h a' (List.mem_cons_of_mem a h')).bind fun cs ds hcds => ?_
    exact refines_ok (.cons hcd hcds)

/-- lists related item by item have the same images, if related items have -/
theorem map_eq_of_forall₂ {R : α → β → Prop} {g : α → γ} {g' : β → γ} (hg : ∀ ⦃a b⦄, R a b → g a = g' b) {as : List α}
    {bs : List β} (h : List.Forall₂ R as bs) : bs.map g' = as.map g := by
  induction h with
  | nil => rfl
  | cons hab _ ih => rw [List.map_cons, List.map_cons, ih, hg hab]

/-- answers that agree in some respect one by one agree in it as lists -/
theorem agree_map_of_forall₂ {f : α → β} {P : β → Prop} {as bs : List α}
    (h : List.Forall₂ (fun a b => Agree P (f a) (f b)) as bs) :
    Agree (fun images => ∀ image ∈ images, P image) (as.map f) (bs.map f) := by
  induction h with
  | nil => exact ⟨rfl, nofun⟩
  | cons hab _ ih =>
    rw [List.map_cons, List.map_cons]
    exact ⟨by rw [hab.1, ih.1], List.forall_mem_cons.2 ⟨hab.2, ih.2⟩⟩

theorem agree_of_forall₂ {P : α → Prop} {as bs : List α} (h : List.Forall₂ (Agree P) as bs) :
    Agree (fun as => ∀ a ∈ as, P a) as bs := by
  simpa using agree_map_of_forall₂ (f := id) h

/-- both fail with the same cause, or both answer, and the answers are related -/
inductive EndAlike (R : α → β → Prop) : Except ε α → Except ε β → Prop where
  | failed (cause : ε) : EndAlike R (.error cause) (.error cause)
  | answered {a : α} {b : β} : R a b → EndAlike R (.ok a) (.ok b)

end Playscript
