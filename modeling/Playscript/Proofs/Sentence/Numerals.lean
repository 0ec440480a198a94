/-
Jumps in the numerals of any lexicon.

A table of numerals may list what it likes: validation asks only that it is not empty.

- `parseNumeral_eq_iff`: a word counts to a place exactly if the numeral there is the first that is the same word;
- `Lexicon.OneWord`, `Lexicon.Foremost`, `Lexicon.Closes`: what can be wrong with a numeral;
- `readNumeral_scene_iff`, `ofBody_comma`: a numeral at the end of a sentence, and before a comma;
- `read_compose_iff`: the jumps that are read as they were written;
- `read_compose_repeated`: a valid lexicon in which a jump leads elsewhere.
-/
import Playscript.Proofs.Outcome
import Playscript.Proofs.Sentence.Jumps
import Playscript.Proofs.Text.Single

namespace Playscript

namespace Lexicon

/-! ## Numerals -/

theorem numeral_succ {lexicon : Lexicon} {i : Nat} {word : String} :
    lexicon.numeral (i + 1) = .ok word ↔ lexicon.numerals[i]? = some word := by
  cases hi : lexicon.numerals[i]? <;> simp [numeral, hi]

theorem exists_of_numeral {lexicon : Lexicon} {n : Nat} {word : String} (h : lexicon.numeral n = .ok word) :
    ∃ i, n = i + 1 ∧ lexicon.numerals[i]? = some word := by
  cases n with
  | zero => cases h
  | succ i => exact ⟨i, rfl, numeral_succ.1 h⟩

/-- **The place that a word counts to** is the first whose numeral is the same word. -/
theorem parseNumeral_eq_iff {lexicon : Lexicon} {n : Nat} {word : String} (h : lexicon.numeral n = .ok word)
    (x : String) : lexicon.parseNumeral x = .ok n ↔ Text.same word x = true ∧
      ∀ m < n, ∀ earlier, lexicon.numeral m = .ok earlier → Text.same earlier x = false := by
  obtain ⟨i, rfl, hword⟩ := exists_of_numeral h
  obtain ⟨hi, rfl⟩ := List.getElem?_eq_some_iff.1 hword
  have found : lexicon.parseNumeral x = .ok (i + 1) ↔
      (lexicon.numerals.findIdx? fun numeral => Text.same numeral x) = some i := by
    unfold parseNumeral
    cases lexicon.numerals.findIdx? fun numeral => Text.same numeral x <;> simp
  rw [found, List.findIdx?_eq_some_iff_getElem]
  refine ⟨fun ⟨_, hsame, hfirst⟩ => ⟨hsame, fun m hm earlier hearlier => ?_⟩,
    fun ⟨hsame, hfirst⟩ => ⟨hi, hsame, fun j hj => ?_⟩⟩
  · obtain ⟨j, rfl, hj⟩ := exists_of_numeral hearlier
    obtain ⟨hlt, rfl⟩ := List.getElem?_eq_some_iff.1 hj
    exact Bool.eq_false_iff.2 (hfirst j (Nat.lt_of_succ_lt_succ hm))
  · have hlt := Nat.lt_trans hj hi
    exact Bool.eq_false_iff.1 (hfirst (j + 1) (Nat.succ_lt_succ hj) _ (numeral_succ.2 (List.getElem?_eq_getElem hlt)))

/-- the `n`th numeral is one word: it is not empty and has no blanks -/
def OneWord (lexicon : Lexicon) (n : Nat) : Prop :=
  ∀ word, lexicon.numeral n = .ok word → word.toList ≠ [] ∧ Text.Solid word.toList

/-- no earlier numeral is the same as the `n`th -/
def Foremost (lexicon : Lexicon) (n : Nat) : Prop :=
  ∀ word, lexicon.numeral n = .ok word →
    ∀ m < n, ∀ earlier, lexicon.numeral m = .ok earlier → Text.same earlier word = false

/-- the `n`th numeral loses no comma at its end -/
def Closes (lexicon : Lexicon) (n : Nat) : Prop :=
  ∀ word, lexicon.numeral n = .ok word → word.toList.getLast? = some ',' → word = ","

theorem parseNumeral_numeral_iff {lexicon : Lexicon} {n : Nat} {word : String} (h : lexicon.numeral n = .ok word) :
    lexicon.parseNumeral word = .ok n ↔ lexicon.Foremost n := by
  rw [parseNumeral_eq_iff h word]
  refine ⟨fun hread word' hword' => ?_, fun hfirst => ⟨Text.same_refl word, hfirst word h⟩⟩
  rw [h] at hword'
  cases hword'
  exact hread.2

/-- a word of a text that counts to a place is, up to letter case, the numeral there -/
theorem oneWord_of_parseNumeral {lexicon : Lexicon} {n : Nat} {word : String} (h : lexicon.numeral n = .ok word)
    {x : String} (hx : x.toList ≠ [] ∧ Text.Solid x.toList) (hread : lexicon.parseNumeral x = .ok n) :
    lexicon.OneWord n ∧ lexicon.Foremost n := by
  obtain ⟨hsame, hfirst⟩ := (parseNumeral_eq_iff h x).1 hread
  refine ⟨fun word' hword' => ?_, fun word' hword' m hm earlier hearlier => ?_⟩
  all_goals
    rw [h] at hword'
    cases hword'
  · exact Text.solid_of_same hsame hx
  · rw [Text.same_congr_right hsame]
    exact hfirst m hm earlier hearlier

end Lexicon

/-! ## Jumps -/

namespace Sentence

open Lexicon

theorem readNumeral_eq_iff {lexicon : Lexicon} {ws rest : Words} {n : Nat} :
    Jump.readNumeral lexicon ws = .ok (n, rest) ↔ ∃ x, ws = x :: rest ∧ lexicon.parseNumeral x = .ok n := by
  cases ws with
  | nil => simp [Jump.readNumeral]
  | cons x ws =>
    have taken : (∃ y, x :: ws = y :: rest ∧ lexicon.parseNumeral y = .ok n) ↔
        lexicon.parseNumeral x = .ok n ∧ ws = rest := by simp [and_assoc, and_comm]
    rw [taken]
    cases hx : lexicon.parseNumeral x <;> simp [Jump.readNumeral, hx]

/-- **A numeral at the end of a sentence** -/
theorem readNumeral_scene_iff {lexicon : Lexicon} {n : Nat} {word : String} (h : lexicon.numeral n = .ok word) :
    Jump.readNumeral lexicon (Words.ofBody word) = .ok (n, []) ↔
      lexicon.OneWord n ∧ lexicon.Foremost n ∧ lexicon.Closes n := by
  rw [readNumeral_eq_iff]
  constructor
  · rintro ⟨x, hws, hread⟩
    have hx : x ∈ Words.ofBody word := hws ▸ List.mem_singleton_self x
    obtain ⟨single, first⟩ := oneWord_of_parseNumeral h (Words.mem_ofBody hx) hread
    refine ⟨single, first, fun word' hword' hcomma => ?_⟩
    rw [h] at hword'
    cases hword'
    obtain ⟨hne, hsolid⟩ := single word h
    rw [Words.ofBody_solid hne hsolid, Words.ofPiece, if_pos hcomma] at hws
    obtain ⟨front, hfront⟩ := List.getLast?_eq_some_iff.1 hcomma
    -- a comma behind something would be a word of its own
    split_ifs at hws with hempty
    · rw [hfront, List.dropLast_concat, List.isEmpty_iff] at hempty
      rw [← String.toList_inj, hfront, hempty]
      rfl
    · cases hws
  · rintro ⟨single, first, closes⟩
    obtain ⟨hne, hsolid⟩ := single word h
    refine ⟨word, ?_, (parseNumeral_numeral_iff h).2 first⟩
    rw [Words.ofBody_solid hne hsolid, Words.ofPiece]
    by_cases hcomma : word.toList.getLast? = some ','
    · rw [closes word h hcomma]
      rfl
    · rw [if_neg hcomma, String.ofList_toList]

/-- **A numeral before a comma** -/
theorem ofBody_comma {word : String} (hne : word.toList ≠ []) (hsolid : Text.Solid word.toList) :
    Words.ofBody (word ++ ",") = [word, ","] := by
  have piece : (word ++ ",").toList = word.toList ++ [','] := String.toList_append
  have solid : Text.Solid (word ++ ",").toList := by
    rw [piece]
    exact List.forall_mem_append.2 ⟨hsolid, by simp [Text.isBlank, Text.isAscii]⟩
  rw [Words.ofBody_solid (by simp [piece]) solid, piece, Words.ofPiece]
  simp [hne]

variable {lexicon : Lexicon}

/-- a jump to a scene, from the words of its numeral on -/
theorem read_scene_iff {ws : Words} {n : Nat} :
    Jump.read lexicon ("Let" :: "us" :: "proceed" :: "to" :: "scene" :: ws) = .ok (some ⟨none, n⟩, []) ↔
      Jump.readNumeral lexicon ws = .ok (n, []) := by
  have opens : Words.eatPhrase "let us proceed to" ("Let" :: "us" :: "proceed" :: "to" :: "scene" :: ws) =
      some ("scene" :: ws) := rfl
  have act : Jump.readAct lexicon ("scene" :: ws) = .ok (none, "scene" :: ws) := rfl
  have scene : Words.expect JumpError.mismatch "scene" ("scene" :: ws) = .ok ws := rfl
  have read : Jump.read lexicon ("Let" :: "us" :: "proceed" :: "to" :: "scene" :: ws) =
      (Jump.readNumeral lexicon ws >>= fun found => .ok (some ⟨none, found.1⟩, found.2)) := by
    simp only [Jump.read, opens, Option.orElse_eq_orElse, Option.orElse_some, act]
    rfl
  rw [read, bind_eq_ok]
  simp

/-- a jump to an act and a scene, likewise -/
theorem read_act_iff {ws : Words} {m n : Nat} :
    Jump.read lexicon ("Let" :: "us" :: "proceed" :: "to" :: "act" :: ws) = .ok (some ⟨some m, n⟩, []) ↔
      ∃ left after rest, Jump.readNumeral lexicon ws = .ok (m, left) ∧
        Words.expect JumpError.mismatch "," left = .ok after ∧
        Words.expect JumpError.mismatch "scene" after = .ok rest ∧
        Jump.readNumeral lexicon rest = .ok (n, []) := by
  have opens : Words.eatPhrase "let us proceed to" ("Let" :: "us" :: "proceed" :: "to" :: "act" :: ws) =
      some ("act" :: ws) := rfl
  have act : Words.eat "act" ("act" :: ws) = some ws := rfl
  simp only [Jump.read, opens, Option.orElse_eq_orElse, Option.orElse_some, Jump.readAct, act, bind_eq_ok, pure,
    Except.pure, Except.ok.injEq, Prod.exists, Prod.mk.injEq, Option.some.injEq, JumpTarget.mk.injEq,
    exists_eq_right_right, ↓existsAndEq, and_true, exists_and_right]
  constructor
  · rintro ⟨after, rest, ⟨left, hact, hcomma⟩, hscene, hn⟩
    exact ⟨left, after, rest, hact, hcomma, hscene, hn⟩
  · rintro ⟨left, after, rest, hact, hcomma, hscene, hn⟩
    exact ⟨after, rest, ⟨left, hact, hcomma⟩, hscene, hn⟩

/-- **The jumps that are read as they were written**, in whatever numerals. A composed jump is read to its end as the
jump that it was composed from if, and only if, the numerals of its act and its scene are one word each, no earlier
numeral is the same up to the case of ASCII letters, and the scene's does not lose a comma at its end. A numeral is read
as its own place exactly if no earlier one is the same. -/
theorem read_compose_iff (lexicon : Lexicon) :
    (∀ target sentence, Jump.compose lexicon target = .ok sentence →
      (Jump.read lexicon (Words.ofText sentence) = .ok (some target, []) ↔
        (∀ m ∈ target.act, lexicon.OneWord m ∧ lexicon.Foremost m) ∧
          lexicon.OneWord target.scene ∧ lexicon.Foremost target.scene ∧ lexicon.Closes target.scene)) ∧
    ∀ n word, lexicon.numeral n = .ok word → (lexicon.parseNumeral word = .ok n ↔ lexicon.Foremost n) := by
  refine ⟨fun target sentence h => ?_, fun n word h => parseNumeral_numeral_iff h⟩
  have stop : isTerminator '.' = true := rfl
  rcases jump_compose_cases h with ⟨n, word, rfl, hn, rfl⟩ | ⟨m, n, actWord, word, rfl, hm, hn, rfl⟩
  · rw [Words.ofText_terminated _ rfl stop, Words.ofBody_append_space, lead_scene.words]
    refine read_scene_iff.trans ((readNumeral_scene_iff hn).trans ?_)
    simp
  · have tail : Words.ofBody (actWord ++ "," ++ " " ++ "scene" ++ " " ++ word) =
        Words.ofBody (actWord ++ ",") ++ "scene" :: Words.ofBody word := by
      rw [Words.ofBody_append_space, Words.ofBody_append_space, List.append_assoc]
      rfl
    have commas (hone : lexicon.OneWord m) : Words.ofBody (actWord ++ ",") = [actWord, ","] :=
      ofBody_comma (hone actWord hm).1 (hone actWord hm).2
    rw [Words.ofText_terminated _ rfl stop, Words.ofBody_append_space, lead_act.words]
    simp only [List.cons_append, List.nil_append]
    refine read_act_iff.trans ⟨?_, ?_⟩
    · rintro ⟨left, after, rest, hact, hcomma, hscene, hend⟩
      -- whatever the act's numeral falls into, its first word counts to the act
      obtain ⟨x, hws, hx⟩ := readNumeral_eq_iff.1 hact
      have word : x ∈ Words.ofBody (actWord ++ "," ++ " " ++ "scene" ++ " " ++ word) := hws ▸ List.mem_cons_self
      obtain ⟨hone, hfirst⟩ := oneWord_of_parseNumeral hm (Words.mem_ofBody word) hx
      rw [tail, commas hone] at hws
      cases hws
      cases hcomma
      cases hscene
      exact ⟨fun k hk => Option.some.inj hk ▸ ⟨hone, hfirst⟩, (readNumeral_scene_iff hn).1 hend⟩
    · rintro ⟨hact, hscene⟩
      obtain ⟨hone, hfirst⟩ := hact m rfl
      rw [tail, commas hone]
      exact ⟨_, _, _, readNumeral_eq_iff.2 ⟨actWord, rfl, (parseNumeral_numeral_iff hm).2 hfirst⟩, rfl, rfl,
        (readNumeral_scene_iff hn).2 hscene⟩

/-- a jump in numerals that are just legible: one ends with a comma and names an act, and one only begins like another -/
theorem read_compose_iff_commas :
    let lexicon : Lexicon := { standard with numerals := ["I", "Ia", "II,", "ia"] }
    let sentence := "Let us proceed to act II,, scene Ia."
    Jump.compose lexicon ⟨some 3, 2⟩ = .ok sentence ∧
      Jump.read lexicon (Words.ofText sentence) = .ok (some ⟨some 3, 2⟩, []) ∧
      lexicon.parseNumeral "Ia" = .ok 2 ∧ lexicon.parseNumeral "ia" ≠ .ok 4 := by
  intro lexicon sentence
  have composed : Jump.compose lexicon ⟨some 3, 2⟩ = .ok sentence := rfl
  obtain ⟨jumps, numerals⟩ := read_compose_iff lexicon
  have second : lexicon.Foremost 2 := (numerals 2 "Ia" rfl).1 (eq_ok_of_toOption (by decide))
  have third : lexicon.Foremost 3 := (numerals 3 "II," rfl).1 (eq_ok_of_toOption (by decide))
  have words : lexicon.OneWord 2 ∧ lexicon.OneWord 3 ∧ lexicon.Closes 2 := by
    refine ⟨fun word hword => ?_, fun word hword => ?_, fun word hword => ?_⟩
    all_goals cases hword
    · exact ⟨by decide, fun c hc => Bool.eq_false_iff.2 (List.any_eq_false.1 (by decide) c hc)⟩
    · exact ⟨by decide, fun c hc => Bool.eq_false_iff.2 (List.any_eq_false.1 (by decide) c hc)⟩
    · decide
  have hidden : ¬lexicon.Foremost 4 := fun hfirst =>
    Bool.eq_false_iff.1 (hfirst "ia" rfl 2 (by decide) "Ia" rfl) (by decide)
  exact ⟨composed,
    (jumps _ _ composed).2 ⟨fun m hm => Option.some.inj hm ▸ ⟨words.2.1, third⟩, words.1, second, words.2.2⟩,
    (numerals 2 "Ia" rfl).2 second, fun hread => hidden ((numerals 4 "ia" rfl).1 hread)⟩

/-- **A jump can lead elsewhere in a valid lexicon.** The third numeral is the second in small letters. -/
theorem read_compose_repeated :
    let lexicon : Lexicon := ⟨⟨["cat"], ["stone"], ["pig"]⟩, ⟨["good"], ["big"], ["bad"]⟩, ⟨["better"], ["worse"]⟩,
      ⟨[⟨"I", "me", "myself", "am"⟩], [⟨"you", "you", "yourself", "are"⟩]⟩, ["I", "II", "ii"], ["Romeo", "Juliet"]⟩
    let sentence := "Let us proceed to scene ii."
    lexicon.validate = .ok () ∧ Jump.compose lexicon ⟨none, 3⟩ = .ok sentence ∧
      Jump.read lexicon (Words.ofText sentence) = .ok (some ⟨none, 2⟩, []) ∧
      lexicon.numeral 3 = .ok "ii" ∧ lexicon.parseNumeral "ii" = .ok 2 := by
  intro lexicon sentence
  exact ⟨eq_ok_of_toOption (by decide), rfl, eq_ok_of_toOption (by decide), rfl,
    eq_ok_of_toOption (by decide)⟩

end Sentence

end Playscript
