/-
Programs that can only jump amiss.

- `Value.Folded`: no sum of two constants in a value goes on as a binary expansion does. These values are the ones that
  folding leaves as they are (`canonical_eq_self_iff`);
- `Line.mem_references_iff`: a line in which no conditional guards another one refers to whom it mentions and to where it
  jumps;
- `Program.Performable`, `sound_iff_performable`: what this makes of sound programs;
- `Program.Formed`: a program declares whom it mentions, once each, no entrance is empty, no conditional guards another
  one, and all values are folded;
- `Formed.isMissing_of_mem_defects`, `Formed.compile_iff`: hence only a destination can be missing, and the program has
  a script exactly when none is.
-/
import Playscript.Phrase.Meaning
import Playscript.Proofs.Script.Soundness
import Playscript.Script.Compile

namespace Playscript

/-! ## Folded values -/

/-- no sum of two constants is left that would have been folded -/
def Value.Folded : Value → Prop
  | .binary op lhs rhs => lhs.Folded ∧ rhs.Folded ∧
      ∀ a b, op = .add → lhs = .constant a → rhs = .constant b → expansionSum a b = none
  | .unary _ operand => operand.Folded
  | _ => True

namespace Value

/-- operations on folded values are folded as they are put together -/
theorem folded_combine {lhs rhs : Value} (hl : lhs.Folded) (hr : rhs.Folded) (op : BinaryOp) :
    (combine op lhs rhs).Folded := by
  unfold combine
  split
  · rename_i a b
    split
    · trivial
    · rename_i hkept
      refine ⟨trivial, trivial, fun _ _ _ ha hb => ?_⟩
      cases ha
      cases hb
      exact hkept
  · rename_i hother
    exact ⟨hl, hr, fun a b hop ha hb => absurd hb (hother a b hop ha)⟩

theorem folded_canonical (value : Value) : value.canonical.Folded := by
  induction value with
  | binary op lhs rhs ihl ihr => exact folded_combine ihl ihr op
  | unary op operand ih => exact ih
  | _ => trivial

theorem combine_eq_binary {op : BinaryOp} {lhs rhs : Value} (h : (binary op lhs rhs).Folded) :
    combine op lhs rhs = .binary op lhs rhs := by
  unfold combine
  split
  · rename_i a b
    rw [h.2.2 a b rfl rfl rfl]
  · rfl

/-- **Folding leaves a value as it is** exactly when no sum in it is left to fold. -/
theorem canonical_eq_self_iff {value : Value} : value.canonical = value ↔ value.Folded := by
  refine ⟨fun h => h ▸ value.folded_canonical, fun h => ?_⟩
  induction value with
  | binary op lhs rhs ihl ihr => rw [canonical, ihl h.1, ihr h.2.1, combine_eq_binary h]
  | unary op operand ih => rw [canonical, ih h]
  | _ => rfl

end Value

/-! ## References -/

/-- a conditional guards something else than a conditional -/
def Statement.Flat : Statement → Prop
  | .conditional _ body => body.isConditional = false
  | _ => True

/-- where a statement jumps to, if it does, by itself or if its condition is met -/
def Statement.target? : Statement → Option JumpTarget
  | .jump target => some target
  | .conditional _ body => body.target?
  | _ => none

/-- a statement of a line of the act, counted from zero, jumps there -/
def Program.HasJump (program : Program) (i : Nat) (target : JumpTarget) : Prop :=
  ∃ j line, program.HasLine i j line ∧ ∃ s ∈ line.statements, s.target? = some target

theorem Statement.flat_of_not_nested {s : Statement} (h : .nested ∉ s.references) : s.Flat := by
  cases s with
  | conditional polarity body =>
    cases body with
    | conditional polarity' body => exact absurd List.mem_cons_self h
    | _ => rfl
  | _ => trivial

/-- a flat statement refers to whom it mentions and to where it jumps -/
theorem Statement.mem_references_iff {s : Statement} (h : s.Flat) {reference : Reference} :
    reference ∈ s.references ↔ (∃ id ∈ s.mentions, reference = .character id) ∨
      ∃ target, s.target? = some target ∧ reference = .scene target := by
  have simple : ∀ s : Statement, s.isConditional = false → (reference ∈ s.bodyReferences ↔
      (∃ id ∈ s.mentions, reference = .character id) ∨
        ∃ target, s.target? = some target ∧ reference = .scene target) := by
    intro s hs
    cases s with
    | conditional polarity body => cases hs
    | _ => simp [bodyReferences, mentions, target?, eq_comm, or_and_right, exists_or]
  cases hs : s.isConditional with
  | false =>
    have references : s.references = s.bodyReferences := by
      cases s with
      | conditional polarity body => cases hs
      | _ => rfl
    rw [references]
    exact simple s hs
  | true =>
    cases s with
    | conditional polarity body => exact simple body h
    | _ => cases hs

/-- so does a line of flat statements, where the speaker is mentioned too -/
theorem Line.mem_references_iff {line : Line} (h : ∀ s ∈ line.statements, s.Flat) {reference : Reference} :
    reference ∈ line.references ↔ (∃ id ∈ line.mentions, reference = .character id) ∨
      ∃ s ∈ line.statements, ∃ target, s.target? = some target ∧ reference = .scene target := by
  cases line with
  | direction d => simp [references, mentions, statements, eq_comm]
  | speech speaker statements =>
    have each := fun s hs => @Statement.mem_references_iff s (h s hs) reference
    simp only [references, mentions, Line.statements, List.mem_cons, List.mem_flatMap]
    constructor
    · rintro (rfl | ⟨s, hs, hmem⟩)
      · exact .inl ⟨speaker, .inl rfl, rfl⟩
      · rcases (each s hs).1 hmem with ⟨id, hid, rfl⟩ | hjump
        · exact .inl ⟨id, .inr ⟨s, hs, hid⟩, rfl⟩
        · exact .inr ⟨s, hs, hjump⟩
    · rintro (⟨id, rfl | ⟨s, hs, hid⟩, rfl⟩ | ⟨s, hs, hjump⟩)
      · exact .inl rfl
      · exact .inr ⟨s, hs, (each s hs).2 (.inl ⟨id, hid, rfl⟩)⟩
      · exact .inr ⟨s, hs, (each s hs).2 (.inr hjump)⟩

/-- every character is declared once, whoever is mentioned is declared, no conditional guards another one, and every
jump leads to a scene -/
structure Program.Performable (program : Program) : Prop extends program.Closed where
  flat : ∀ i j line, program.HasLine i j line → ∀ s ∈ line.statements, s.Flat
  leads : ∀ i target, program.HasJump i target → program.Leads (i + 1) (.scene target)

/-- **What a program is sound by** can be told from its lines. -/
theorem Program.sound_iff_performable {program : Program} : program.Sound ↔ program.Performable := by
  constructor
  · intro sound
    have flat : ∀ i j line, program.HasLine i j line → ∀ s ∈ line.statements, s.Flat := by
      intro i j line hline s hs
      cases line with
      | direction d => cases hs
      | speech speaker statements =>
        exact Statement.flat_of_not_nested fun hnested => sound.statement_leads hline hs _ hnested
    refine ⟨sound.closed, flat, ?_⟩
    rintro i target ⟨j, line, hline, s, hs, htarget⟩
    refine sound.leads i j line hline _ ((Line.mem_references_iff (flat i j line hline)).2 (.inr ?_))
    exact ⟨s, hs, target, htarget, rfl⟩
  · intro performable
    refine ⟨performable.nodup, fun i j line hline reference hreference => ?_⟩
    rcases (Line.mem_references_iff (performable.flat i j line hline)).1 hreference with
      ⟨id, hid, rfl⟩ | ⟨s, hs, target, htarget, rfl⟩
    · exact performable.declared i j line hline id hid
    · exact performable.leads i target ⟨j, line, hline, s, hs, htarget⟩

/-! ## Formed programs -/

/-- all values are folded, and a conditional guards something else than a conditional -/
def Statement.Formed : Statement → Prop
  | .assign value => value.Folded
  | .remember value => value.Folded
  | .compare c => c.lhs.Folded ∧ c.rhs.Folded
  | .conditional _ body => body.isConditional = false ∧ body.Formed
  | _ => True

/-- somebody enters, if it is an entrance, and what is said is formed -/
def Line.Formed : Line → Prop
  | .direction d => d ≠ .enter []
  | .speech _ statements => ∀ s ∈ statements, s.Formed

theorem Statement.Formed.flat {s : Statement} (h : s.Formed) : s.Flat := by
  cases s with
  | conditional polarity body => exact h.1
  | _ => trivial

theorem Line.Formed.flat {line : Line} (h : line.Formed) : ∀ s ∈ line.statements, s.Flat := by
  cases line with
  | direction d => exact nofun
  | speech speaker statements => exact fun s hs => (h s hs).flat

/-- a program that is in order but for the destinations of its jumps -/
structure Program.Formed (program : Program) : Prop extends program.Closed where
  lines : ∀ i j line, program.HasLine i j line → line.Formed

/-- a destination that is not there -/
def Defect.isMissing : Defect → Bool
  | .missingAct .. => true
  | .missingScene .. => true
  | _ => false

theorem Program.jumpDefect?_isMissing {program : Program} {place : Location} {target : JumpTarget} {defect : Defect}
    (h : program.jumpDefect? place target = some defect) : defect.isMissing = true := by
  unfold jumpDefect? at h
  split at h
  · cases h
    rfl
  · split at h
    · cases h
    · cases h
      rfl

namespace Program.Formed

variable {program : Program} (h : program.Formed)
include h

/-- **Only the destination of a jump can be missing** in a formed program. -/
theorem isMissing_of_mem_defects {defect : Defect} (hdefect : defect ∈ program.defects) : defect.isMissing = true := by
  have once : repeated [] program.declared = [] := (repeated_eq_nil_iff _ _).2 ⟨fun _ _ => List.not_mem_nil, h.nodup⟩
  rw [defects, once, List.map_nil, List.nil_append] at hdefect
  obtain ⟨⟨place, reference⟩, hreference, hdefect⟩ := List.mem_filterMap.1 hdefect
  obtain ⟨i, j, line, rfl, hline, hmem⟩ := mem_references_iff.1 hreference
  rcases (Line.mem_references_iff (h.lines i j line hline).flat).1 hmem with ⟨id, hid, rfl⟩ | ⟨s, -, target, -, rfl⟩
  · rw [defect?, if_pos (h.declared i j line hline id hid)] at hdefect
    cases hdefect
  · exact jumpDefect?_isMissing hdefect

/-- **A formed program is sound** exactly when all its jumps lead somewhere. -/
theorem sound_iff :
    program.Sound ↔ ∀ i target, program.HasJump i target → program.Leads (i + 1) (.scene target) :=
  sound_iff_performable.trans
    ⟨Performable.leads, fun jumps => ⟨h.toClosed, fun i j line hline => (h.lines i j line hline).flat, jumps⟩⟩

/-- a formed program has a script exactly when all its jumps lead somewhere -/
theorem compile_iff :
    (∃ script, program.compile = .ok script) ↔
      ∀ i target, program.HasJump i target → program.Leads (i + 1) (.scene target) := by
  rw [← h.sound_iff, ← defects_eq_nil_iff]
  constructor
  · rintro ⟨script, hscript⟩
    exact (compile_eq_ok_iff.1 hscript).1
  · exact fun hnil => ⟨program.lower, compile_eq_ok_iff.2 ⟨hnil, rfl⟩⟩

end Program.Formed

end Playscript
