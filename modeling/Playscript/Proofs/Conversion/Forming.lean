/-
Programs that plays stand for.

- `Phrase.meaning_folded`: whatever phrase is read, its value is folded;
- `Sentence.parse_formed`, `Direction.parse_formed`: so sentences are formed statements, where only one condition can
  stand before what is said, and somebody enters if anybody is told to;
- `formed_of_transcribe`: every program of a play is formed, and about the characters of the play only;
- `compile_transcribed`: so compiling it fails only for jumps that lead nowhere, and only sums that go on as a binary
  expansion does are sure to be folded (`transcribe_keeps_sum`).
-/
import Playscript.Proofs.Conversion.Overhearing
import Playscript.Proofs.Script.Formed
import Playscript.Proofs.Sentence.RoundTrip

namespace Playscript

/-! ## Values -/

namespace Phrase

/-- sums are folded as they are read -/
theorem meaning_folded (vocabulary : Vocabulary) (phrase : NounPhrase) :
    Gives (meaning vocabulary phrase) Value.Folded := by
  induction phrase with
  | nothing => exact gives_ok trivial
  | noun adjectives noun => exact gives_after _ fun worth => gives_ok trivial
  | pronoun word =>
    unfold meaning
    split
    · exact gives_ok trivial
    · exact gives_error _ _
  | name name =>
    unfold meaning
    split
    · exact gives_ok trivial
    · exact gives_error _ _
  | binary op lhs rhs ihl ihr =>
    exact ihl.bind fun left hl => ihr.bind fun right hr => gives_ok (Value.folded_combine hl hr op)
  | unary op operand ih => exact ih.bind fun inner hinner => gives_ok hinner
  | twice operand ih =>
    refine ih.bind fun inner hinner => gives_ok ⟨trivial, hinner, fun a b hop => ?_⟩
    cases hop

theorem readValue_folded (vocabulary : Vocabulary) (ws : Words) :
    Gives (readValue vocabulary ws) fun answer => answer.1.Folded := by
  refine gives_after _ fun ⟨phrase, rest⟩ => ?_
  dsimp only
  have folded := meaning_folded vocabulary phrase
  cases hmeaning : meaning vocabulary phrase with
  | ok value => exact gives_ok (folded value hmeaning)
  | error cause => exact gives_error _ _

end Phrase

/-! ## Sentences -/

/-- a numeral that is read is one of the lexicon -/
theorem Lexicon.parseNumeral_bounds (lexicon : Lexicon) (word : String) :
    Gives (lexicon.parseNumeral word) fun n => 1 ≤ n ∧ n ≤ lexicon.numerals.length := by
  unfold Lexicon.parseNumeral
  split
  · rename_i i hi
    exact gives_ok ⟨Nat.succ_pos i, (List.findIdx?_eq_some_iff_getElem.1 hi).1⟩
  · exact gives_error _ _

namespace Jump

variable (lexicon : Lexicon)

theorem readNumeral_bounds (ws : Words) :
    Gives (readNumeral lexicon ws) fun answer => 1 ≤ answer.1 ∧ answer.1 ≤ lexicon.numerals.length := by
  cases ws with
  | nil => exact gives_error _ _
  | cons word ws =>
    have bounds := lexicon.parseNumeral_bounds word
    unfold readNumeral
    dsimp only
    cases hnumeral : lexicon.parseNumeral word with
    | ok n => exact gives_ok (bounds n hnumeral)
    | error cause => exact gives_error _ _

/-- a jump that is read leads where there are numerals for -/
theorem read_numbered (ws : Words) : Gives (read lexicon ws) fun answer =>
    ∀ target, answer.1 = some target →
      ∀ n ∈ (Statement.jump target).numerals, 1 ≤ n ∧ n ≤ lexicon.numerals.length := by
  have act : ∀ ws, Gives (readAct lexicon ws) fun answer =>
      ∀ n ∈ answer.1.toList, 1 ≤ n ∧ n ≤ lexicon.numerals.length := by
    intro ws
    unfold readAct
    split
    · exact gives_ok nofun
    · refine (readNumeral_bounds lexicon _).bind fun answer hn => gives_after _ fun rest => gives_ok ?_
      simpa using hn
  unfold read
  split
  · exact gives_ok nofun
  · refine (act _).bind fun place hact => gives_after _ fun rest => ?_
    refine (readNumeral_bounds lexicon rest).bind fun scene hscene => gives_ok ?_
    rintro target ⟨⟩ n hn
    rcases List.mem_append.1 hn with hn | hn
    · exact hact n hn
    · exact List.mem_singleton.1 hn ▸ hscene

end Jump

namespace Sentence

/-- a statement that is formed, no conditional, and names only acts and scenes that there are numerals for -/
structure Simple (lexicon : Lexicon) (s : Statement) : Prop where
  flat : s.isConditional = false
  formed : s.Formed
  numbered : ∀ n ∈ s.numerals, 1 ≤ n ∧ n ≤ lexicon.numerals.length

theorem reading_gives {ε α : Type} {P : α → Prop} {x : Except (Stopped ε) α} (h : Gives x P)
    (wrap : ε → SentenceError) : Gives (reading wrap x) P := by
  cases x with
  | ok a => exact gives_ok (h a rfl)
  | error stopped => exact gives_error _ _

theorem readTransfer?_simple (lexicon : Lexicon) {ws : Words} {answer : Except SentenceError (Statement × Words)}
    (h : readTransfer? ws = some answer) : Gives answer fun found => Simple lexicon found.1 := by
  unfold readTransfer? at h
  split at h
  · cases h
    refine gives_after _ fun rest => ?_
    cases Words.eat "mind" rest with
    | some rest => exact gives_ok ⟨rfl, trivial, nofun⟩
    | none => exact gives_after _ fun rest => gives_ok ⟨rfl, trivial, nofun⟩
  · split at h
    · cases h
      exact gives_after _ fun rest => gives_after _ fun rest => gives_ok ⟨rfl, trivial, nofun⟩
    · split at h
      · cases h
        exact gives_after _ fun rest => gives_after _ fun rest => gives_ok ⟨rfl, trivial, nofun⟩
      · cases h

variable (vocabulary : Vocabulary)

theorem readValue_folded (ws : Words) : Gives (readValue vocabulary ws) fun answer => answer.1.Folded :=
  reading_gives (Phrase.readValue_folded vocabulary ws) _

theorem readLastValue_folded (ws : Words) : Gives (readLastValue vocabulary ws) Value.Folded :=
  (readValue_folded vocabulary ws).bind fun _ hvalue => gives_after _ fun _ => gives_ok hvalue

theorem readAssignment_simple (ws : Words) : Gives (readAssignment vocabulary ws) (Simple vocabulary.lexicon) := by
  have assigned : ∀ rest, Gives (readLastValue vocabulary rest >>= fun value => .ok (Statement.assign value))
      (Simple vocabulary.lexicon) :=
    fun rest => (readLastValue_folded vocabulary rest).bind fun value hvalue => gives_ok ⟨rfl, hvalue, nofun⟩
  unfold readAssignment
  cases Words.eat "as" ws with
  | some rest => exact gives_after _ assigned
  | none => exact assigned ws

theorem readQuestion_simple {lhs : Value} (hlhs : lhs.Folded) (ws : Words) :
    Gives (readQuestion vocabulary lhs ws) (Simple vocabulary.lexicon) :=
  gives_after _ fun ⟨_, rest⟩ => (readLastValue_folded vocabulary rest).bind fun _ hrhs =>
    gives_ok ⟨rfl, ⟨hlhs, hrhs⟩, nofun⟩

theorem parseClause_simple (sentence : String) (ws : Words) :
    Gives (parseClause vocabulary sentence ws) (Simple vocabulary.lexicon) := by
  unfold parseClause
  cases Words.eat "recall" ws with
  | some _ => exact gives_ok ⟨rfl, trivial, nofun⟩
  | none =>
  cases Words.eat "remember" ws with
  | some rest => exact (readLastValue_folded vocabulary rest).bind fun value hvalue => gives_ok ⟨rfl, hvalue, nofun⟩
  | none =>
  dsimp only
  split
  · exact readAssignment_simple vocabulary _
  · cases opensQuestion vocabulary ws with
    | some role => exact @readQuestion_simple vocabulary (.role role) trivial _
    | none =>
    cases Words.eat "is" ws with
    | some rest => exact (readValue_folded vocabulary rest).bind fun answer hlhs => readQuestion_simple vocabulary hlhs _
    | none => exact gives_error _ _

theorem parseSimple_simple (sentence : String) (ws : Words) :
    Gives (parseSimple vocabulary sentence ws) (Simple vocabulary.lexicon) := by
  refine (reading_gives (Jump.read_numbered vocabulary.lexicon ws) _).bind fun ⟨target, rest⟩ hjump => ?_
  cases target with
  | some target => exact gives_after _ fun _ => gives_ok ⟨rfl, trivial, hjump target rfl⟩
  | none =>
    dsimp only
    cases htransfer : readTransfer? rest with
    | none => exact parseClause_simple vocabulary sentence rest
    | some answer =>
      exact (readTransfer?_simple vocabulary.lexicon htransfer).bind fun found hsimple =>
        gives_after _ fun _ => gives_ok hsimple

/-- **A sentence is a formed statement**, if it is one at all, and names only acts and scenes that there are numerals
for. -/
theorem parse_simple (sentence : String) : Gives (parse vocabulary sentence) fun s =>
    s.Formed ∧ ∀ n ∈ s.numerals, 1 ≤ n ∧ n ≤ vocabulary.lexicon.numerals.length := by
  unfold parse
  rcases Jump.readMarker (Words.ofText sentence) with ⟨_ | polarity, ws⟩
  · exact (parseSimple_simple vocabulary sentence ws).mono fun _ simple => ⟨simple.formed, simple.numbered⟩
  · exact (parseSimple_simple vocabulary sentence ws).bind fun body simple =>
      gives_ok ⟨⟨simple.flat, simple.formed⟩, simple.numbered⟩

theorem parse_formed (sentence : String) : Gives (parse vocabulary sentence) Statement.Formed :=
  (parse_simple vocabulary sentence).mono fun _ simple => simple.1

end Sentence

/-- nobody is asked to enter in vain -/
theorem Direction.parse_formed (cast : Cast) (text : String) :
    Gives (parse cast text) fun d => (Line.direction d).Formed := by
  unfold parse
  dsimp only
  generalize Words.ofText (String.ofList (dropBrackets (Text.trimChars text.toList))) = ws
  cases Words.eat "enter" ws with
  | some rest =>
    refine gives_after _ fun ids => ?_
    cases ids with
    | nil => exact gives_error _ _
    | cons id ids => exact gives_ok nofun
  | none =>
  cases Words.eat "exit" ws with
  | some rest => exact gives_after _ fun _ => gives_after _ fun _ => gives_ok nofun
  | none =>
  cases Words.eat "exeunt" ws with
  | some rest => exact gives_after _ fun _ => gives_ok nofun
  | none => exact gives_error _ _

/-! ## Plays -/

namespace Transcribe

variable (vocabulary : Vocabulary)

/-- what holds of whatever a direction or a sentence is read as, carried over to lines -/
theorem parseLine_gives {P : Line → Prop} {Q : Statement → Prop}
    (direction : ∀ text, Gives (Direction.parse vocabulary.cast text) fun d => P (.direction d))
    (sentence : ∀ sentence, Gives (Sentence.parse vocabulary sentence) Q)
    (speech : ∀ speaker statements, (∀ s ∈ statements, Q s) → P (.speech speaker statements)) (place : Location)
    (line : PlayLine) : Gives (parseLine vocabulary place line) P := by
  cases line with
  | direction text =>
    have holds := direction text
    -- the parser matters by its answer only
    unfold parseLine
    revert holds
    generalize Direction.parse vocabulary.cast = read
    intro holds
    dsimp only
    cases hread : read text with
    | ok d => exact gives_ok (holds d hread)
    | error cause => exact gives_error _ _
  | speech name sentences =>
    have hold := gives_mapM fun text (_ : text ∈ sentences) => sentence text
    unfold parseLine
    dsimp only
    split
    · exact gives_error _ _
    · dsimp only [parseSentences]
      cases hstatements : sentences.mapM (Sentence.parse vocabulary) with
      | error cause => exact gives_error _ _
      | ok statements => exact gives_ok (speech _ statements (hold statements hstatements))

theorem parseLine_formed (place : Location) (line : PlayLine) : Gives (parseLine vocabulary place line) Line.Formed :=
  parseLine_gives vocabulary (Direction.parse_formed vocabulary.cast) (Sentence.parse_formed vocabulary)
    (fun _ _ formed => formed) place line

/-- what holds of every line that is read holds of the lines of all acts -/
theorem parseActs_gives {P : Line → Prop} (h : ∀ place line, Gives (parseLine vocabulary place line) P)
    (acts : List PlayAct) : Gives (parseActs vocabulary acts) fun acts =>
      ∀ act ∈ acts, ∀ scene ∈ act.scenes, ∀ line ∈ scene.lines, P line := by
  refine gives_mapM fun act _ => ?_
  have scenes : Gives ((act.1.scenes.zipIdx 1).mapM fun scene => parseScene vocabulary ⟨act.2, scene.2⟩ scene.1)
      fun scenes => ∀ scene ∈ scenes, ∀ line ∈ scene.lines, P line := by
    refine gives_mapM fun scene _ => ?_
    have lines := gives_mapM fun line (_ : line ∈ scene.1.lines) => h ⟨act.2, scene.2⟩ line
    exact gives_after _ fun _ => lines.bind fun _ hlines => gives_ok hlines
  exact gives_after _ fun _ => scenes.bind fun _ hscenes => gives_ok hscenes

/-- **Acts that can be read are formed**, line by line. -/
theorem parseActs_formed (acts : List PlayAct) :
    Gives (parseActs vocabulary acts) fun acts =>
      ∀ act ∈ acts, ∀ scene ∈ act.scenes, ∀ line ∈ scene.lines, line.Formed :=
  parseActs_gives vocabulary (parseLine_formed vocabulary) acts

/-- the characters of a play are declared in the order of its list -/
theorem declared_of_recover {lexicon : Lexicon} {cast : Cast} {personae : List Persona}
    (h : Cast.recover (personae.map (·.name)) = .ok cast) :
    (declarations (Vocabulary.of lexicon cast) personae).map (·.id) = cast.members.map (·.1) := by
  obtain ⟨hnames, -, -⟩ := Cast.identifiers_of_recover h
  have hlength := congrArg List.length hnames
  rw [Cast.names, List.length_map, List.length_map] at hlength
  rw [← List.map_fst_zip (Nat.le_of_eq hlength), List.map_map, declarations, List.map_map]
  rfl

end Transcribe

namespace Conversion

open Lexicon

/-- **A play is a formed program**, whatever the lexicon, if it is one at all. -/
theorem formed_of_transcribe {lexicon : Lexicon} {play : Play} {program : Program}
    (h : play.transcribe lexicon = .ok program) : program.Formed := by
  unfold Play.transcribe at h
  split at h
  · cases h
  · rename_i cast hcast
    obtain ⟨acts, hparsed, hprogram⟩ := bind_eq_ok.1 h
    cases hprogram
    have declared := @Transcribe.declared_of_recover lexicon cast play.personae hcast
    obtain ⟨-, hids, hnodup⟩ := Cast.identifiers_of_recover hcast
    -- whatever a cast reads is about its own members
    obtain ⟨_, -, -, hknown⟩ := Transcribe.parseActs_refines (Cast.Within.refl lexicon cast) play.acts acts hparsed
    have formed := Transcribe.parseActs_formed (Vocabulary.of lexicon cast) play.acts acts hparsed
    refine ⟨⟨?_, ?_⟩, ?_⟩
    · rw [Program.declared, declared, hids]
      exact hnodup
    · rintro i j line ⟨scenes, lines, hscenes, hlines, hline⟩ id hid
      rw [Program.declared, declared]
      exact hknown scenes (List.mem_of_getElem? hscenes) lines (List.mem_of_getElem? hlines) line hline id hid
    · rintro i j line ⟨scenes, lines, hscenes, hlines, hline⟩
      obtain ⟨act, hact, rfl⟩ := List.mem_map.1 (List.mem_of_getElem? hscenes)
      obtain ⟨scene, hscene, rfl⟩ := List.mem_map.1 (List.mem_of_getElem? hlines)
      exact formed act hact scene hscene line hline

/-- **Only the destinations of jumps can be missing from a play.** Let a play, with any lexicon, have a program. It
declares no character twice and nobody is mentioned who is not declared, no entrance is empty, no conditional guards a
conditional, and no sum of constants is left that goes on as a binary expansion does. So all that compiling can find
wrong are acts and scenes that jumps go to and that are not there, and there is a script exactly when there are all. -/
theorem compile_transcribed {lexicon : Lexicon} {play : Play} {program : Program}
    (h : play.transcribe lexicon = .ok program) :
    program.Formed ∧
      (∀ defects, program.compile = .error defects → ∀ defect ∈ defects, defect.isMissing = true) ∧
      ((∃ script, program.compile = .ok script) ↔
        ∀ i target, program.HasJump i target → program.Leads (i + 1) (.scene target)) := by
  have formed := formed_of_transcribe h
  refine ⟨formed, fun defects hdefects defect hdefect => ?_, formed.compile_iff⟩
  refine formed.isMissing_of_mem_defects ?_
  unfold Program.compile at hdefects
  split at hdefects
  · cases hdefects
  · cases hdefects
    exact hdefect

/-- a question decides about a jump to a scene that the play does not have -/
def monologue : Play where
  title := "Monologue"
  personae := [⟨"Hamlet", "who asks himself"⟩]
  acts := [⟨"I", "The only one", [⟨"I", "The only one", [
    .direction "Enter Hamlet",
    .speech "Hamlet" ["You are the sum of a big cat and a cat.", "Am I better than you?",
      "If so, let us proceed to scene III."]]⟩]⟩]

theorem compile_transcribed_monologue : ∃ program defects, monologue.transcribe standard = .ok program ∧
    program.compile = .error defects ∧ defects = [.missingScene ⟨1, 1⟩ 1 3] ∧ program.Formed ∧
      (∀ defect ∈ defects, defect.isMissing = true) ∧
        ¬ ∀ i target, program.HasJump i target → program.Leads (i + 1) (.scene target) := by
  have htold : monologue.transcribe standard = .ok
      ⟨"Monologue", [⟨⟨"hamlet"⟩, "who asks himself"⟩], [⟨"The only one", [⟨"The only one", [
        .direction (.enter [⟨"hamlet"⟩]),
        .speech ⟨"hamlet"⟩ [.assign (.constant 3), .compare ⟨.greater, false, .role .speaker, .role .addressee⟩,
          .conditional true (.jump ⟨none, 3⟩)]]⟩]⟩]⟩ := eq_ok_of_toOption (by decide +kernel)
  obtain ⟨formed, missing, succeeds⟩ := compile_transcribed htold
  refine ⟨_, _, htold, rfl, rfl, formed, missing _ rfl, fun hleads => ?_⟩
  obtain ⟨script, hscript⟩ := succeeds.2 hleads
  cases hscript

/-- a sum of constants that does not begin with the larger one stays a sum, though it has a worth -/
theorem transcribe_keeps_sum :
    Play.transcribe standard ⟨"T", [⟨"Romeo", "a man"⟩],
        [⟨"I", "", [⟨"I", "", [.speech "Romeo" ["You are the sum of a cat and a big big cat."]]⟩]⟩]⟩ =
      .ok ⟨"T", [⟨⟨"romeo"⟩, "a man"⟩],
        [⟨"", [⟨"", [.speech ⟨"romeo"⟩ [.assign (.binary .add (.constant 1) (.constant 4))]]⟩]⟩]⟩ ∧
      BinaryOp.apply .add 1 4 = .ok 5 :=
  ⟨eq_ok_of_toOption (by decide +kernel), by decide +kernel⟩

end Conversion

end Playscript
