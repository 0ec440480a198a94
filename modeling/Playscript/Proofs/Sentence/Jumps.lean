/-
Numerals and jumps are read as they were written.

- `numeral_isOk_iff`: a lexicon counts from one to the length of its table;
- `parseNumeral_numeral`: a standard numeral stands for the number that it was written for;
- `heard_jump`: the sentence of a jump is understood as that jump.
-/
import Playscript.Proofs.Lexicon.Standard
import Playscript.Proofs.Sentence.Opening

namespace Playscript

namespace Lexicon

theorem numeral_isOk_iff (lexicon : Lexicon) (n : Nat) :
    (∃ word, lexicon.numeral n = .ok word) ↔ 1 ≤ n ∧ n ≤ lexicon.numerals.length := by
  cases n with
  | zero => simp [numeral]
  | succ i =>
    by_cases hi : i < lexicon.numerals.length
    · have hget : lexicon.numerals[i]? = some lexicon.numerals[i] := List.getElem?_eq_getElem hi
      have hok : lexicon.numeral (i + 1) = .ok lexicon.numerals[i] := by simp only [numeral, hget]
      exact ⟨fun _ => ⟨Nat.succ_pos i, hi⟩, fun _ => ⟨_, hok⟩⟩
    · have hget : lexicon.numerals[i]? = none := List.getElem?_eq_none (Nat.le_of_not_lt hi)
      refine ⟨?_, fun h => absurd h.2 (by omega)⟩
      rintro ⟨word, hword⟩
      simp [numeral, hget] at hword

/-- a standard numeral and the number that it stands for -/
theorem parseNumeral_numeral {n : Nat} {word : String} (h : standard.numeral n = .ok word) :
    word ∈ standardNumerals ∧ standard.parseNumeral word = .ok n := by
  cases n with
  | zero => cases h
  | succ i =>
    cases hi : standardNumerals[i]? with
    | none => simp [numeral, standard, hi] at h
    | some numeral =>
      have heq : numeral = word := by simpa [Lexicon.numeral, standard, hi] using h
      subst heq
      refine ⟨List.mem_of_getElem? hi, ?_⟩
      simp only [parseNumeral, standard, standardNumerals_first hi]

end Lexicon

namespace Sentence

open Lexicon

theorem jump_compose_isOk_iff (lexicon : Lexicon) (target : JumpTarget) :
    (∃ sentence, Jump.compose lexicon target = .ok sentence) ↔
      ∀ n ∈ target.act.toList ++ [target.scene], 1 ≤ n ∧ n ≤ lexicon.numerals.length := by
  obtain ⟨act, scene⟩ := target
  have hscene := numeral_isOk_iff lexicon scene
  cases act with
  | none =>
    simp only [Option.toList_none, List.nil_append, List.mem_singleton, forall_eq]
    rw [← hscene]
    cases hs : lexicon.numeral scene <;> simp [Jump.compose, hs, bind, Except.bind, pure, Except.pure]
  | some n =>
    have hact := numeral_isOk_iff lexicon n
    simp only [Option.toList_some, List.singleton_append, List.mem_cons, List.not_mem_nil, or_false, forall_eq_or_imp,
      forall_eq]
    rw [← hscene, ← hact]
    cases hs : lexicon.numeral scene <;> cases ha : lexicon.numeral n <;>
      simp [Jump.compose, hs, ha, bind, Except.bind, pure, Except.pure]

theorem lead_scene : Lead "Let us proceed to scene" "Let" "let" ["us", "proceed", "to", "scene"] :=
  ⟨by decide, by decide, by decide, by decide⟩

theorem lead_act : Lead "Let us proceed to act" "Let" "let" ["us", "proceed", "to", "act"] :=
  ⟨by decide, by decide, by decide, by decide⟩

/-- the two sentences of a jump -/
theorem jump_compose_cases {lexicon : Lexicon} {target : JumpTarget} {sentence : String}
    (h : Jump.compose lexicon target = .ok sentence) :
    (∃ n word, target = ⟨none, n⟩ ∧ lexicon.numeral n = .ok word ∧
        sentence = "Let us proceed to scene" ++ " " ++ word ++ ".") ∨
      ∃ m n actWord word, target = ⟨some m, n⟩ ∧ lexicon.numeral m = .ok actWord ∧ lexicon.numeral n = .ok word ∧
        sentence = "Let us proceed to act" ++ " " ++ (actWord ++ "," ++ " " ++ "scene" ++ " " ++ word) ++ "." := by
  obtain ⟨act, n⟩ := target
  cases hscene : lexicon.numeral n with
  | error cause =>
    rw [Jump.compose, hscene] at h
    cases h
  | ok word =>
    rw [Jump.compose, hscene] at h
    cases act with
    | none =>
      cases h
      exact .inl ⟨n, word, rfl, hscene, rfl⟩
    | some m =>
      cases hact : lexicon.numeral m with
      | error cause =>
        simp only [hact] at h
        cases h
      | ok actWord =>
        simp only [hact] at h
        cases h
        refine .inr ⟨m, n, actWord, word, rfl, hact, hscene, ?_⟩
        show "Let us proceed to act " ++ actWord ++ ", scene " ++ word ++ "." = _
        simp [← String.toList_inj]

variable {hearer : Vocabulary} (hl : hearer.lexicon = standard)
include hl

theorem readNumeral_numeral {n : Nat} {word : String} (h : standard.numeral n = .ok word) (rest : Words) :
    Jump.readNumeral hearer.lexicon (word :: rest) = .ok (n, rest) := by
  simp only [Jump.readNumeral, hl, (parseNumeral_numeral h).2]

theorem read_jump {act : Option Nat} {ws : Words} {n : Nat} {word : String}
    (hact : Jump.readAct hearer.lexicon ws = .ok (act, ["scene", word])) (hn : standard.numeral n = .ok word)
    (text : String) :
    parseSimple hearer text ("let" :: "us" :: "proceed" :: "to" :: ws) = .ok (.jump ⟨act, n⟩) := by
  have opens : Words.eatPhrase "let us proceed to" ("let" :: "us" :: "proceed" :: "to" :: ws) = some ws := rfl
  have scene : Words.expect JumpError.mismatch "scene" ["scene", word] = .ok [word] := rfl
  simp only [parseSimple, Jump.read, opens, Option.orElse_eq_orElse, Option.orElse_some, hact, scene,
    readNumeral_numeral hl hn, bind, Except.bind]
  rfl

/-- **The sentence of a jump is understood as that jump.** -/
theorem heard_jump {target : JumpTarget} {sentence : String} (h : Jump.compose standard target = .ok sentence) :
    Heard hearer (.jump target) sentence := by
  rcases jump_compose_cases h with ⟨n, word, rfl, hn, rfl⟩ | ⟨m, n, actWord, word, rfl, hm, hn, rfl⟩
  · have tailWords := (standard_numerals.single word (parseNumeral_numeral hn).1).1
    refine lead_scene.heard tailWords rfl rfl fun text => ?_
    exact read_jump hl rfl hn text
  · have tailWords : Words.ofBody (actWord ++ "," ++ " " ++ "scene" ++ " " ++ word) =
        [actWord, ",", "scene", word] := by
      rw [Words.ofBody_append_space, Words.ofBody_append_space,
        (standard_numerals.single actWord (parseNumeral_numeral hm).1).2,
        (standard_numerals.single word (parseNumeral_numeral hn).1).1]
      rfl
    refine lead_act.heard tailWords rfl rfl fun text => ?_
    refine read_jump hl ?_ hn text
    show Jump.readAct hearer.lexicon ("act" :: [actWord, ",", "scene", word]) = _
    have act : Words.eat "act" ("act" :: [actWord, ",", "scene", word]) = some [actWord, ",", "scene", word] := rfl
    simp only [Jump.readAct, act, readNumeral_numeral hl hm, bind, Except.bind]
    rfl

end Sentence

end Playscript
