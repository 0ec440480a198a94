/-
Plays of programs come back from their text.

- `composeLine_legible`, `composeActs_composed`: whatever words are chosen, all but the free texts of a play can be read
  on its own (`composed_of_dramatize`);
- `legible_of_dramatize`: so a play whose free texts are neat is legible;
- `parse_render`: and is what its rendering, and any layout of it, is parsed as.
-/
import Playscript.Proofs.Conversion.RoundTrip
import Playscript.Proofs.Outcome
import Playscript.Proofs.Play.Parsing
import Playscript.Proofs.Sentence.Running
import Playscript.Proofs.Text.Lowercase

namespace Playscript

namespace Conversion

open Lexicon Choosing

section Yields

variable {cast : Cast}

theorem numbered_isNumeral (n : Nat) : Yields (Dramatize.numbered (Vocabulary.of standard cast) n) IsNumeral := by
  unfold Dramatize.numbered
  split
  · rename_i numeral hnumeral
    exact yields_pure (Sentence.isNumeral_of_numeral hnumeral)
  · exact yields_throw _ _

variable (hdrawn : cast.Drawn standardCast) {known : Ident → Prop} {names : List String}
  (hnames : ∀ id name, known id → cast.nameOf id = some name → name ∈ names)
include hdrawn hnames

/-- **A line is legible**, whatever words are chosen, where its speaker is listed. -/
theorem composeLine_legible (place : Location) {line : Line} (hknown : ∀ id ∈ line.mentions, known id) :
    Yields (Dramatize.composeLine (Vocabulary.of standard cast) place line) (PlayLine.Legible names) := by
  cases line with
  | direction d =>
    simp only [Dramatize.composeLine]
    split
    · rename_i text htext
      exact yields_pure (Direction.running_of_compose hdrawn htext)
    · exact yields_throw _ _
  | speech speaker statements =>
    simp only [Dramatize.composeLine, Dramatize.composeSpeech]
    split
    · exact yields_throw _ _
    · rename_i name hname
      have listed : name ∈ names := hnames speaker name (hknown speaker List.mem_cons_self) hname
      have each : ∀ statement ∈ statements,
          Yields (Sentence.compose (Vocabulary.of standard cast) speaker statement) IsSentence :=
        fun statement _ => Sentence.compose_isSentence hdrawn speaker statement
      exact ((yields_mapM_all each).adapt _).bind fun told htold => yields_pure ⟨listed, htold⟩

theorem composeScene_composed (place : Location) {scene : Scene}
    (hknown : ∀ line ∈ scene.lines, ∀ id ∈ line.mentions, known id) :
    Yields (Dramatize.composeScene (Vocabulary.of standard cast) place scene) (PlayScene.Composed names) := by
  have lines := yields_mapM_all fun line hline => composeLine_legible hdrawn hnames place (hknown line hline)
  refine lines.bind fun told htold => (numbered_isNumeral place.scene).bind fun numeral hnumeral => ?_
  exact yields_pure ⟨hnumeral, htold⟩

theorem composeAct_composed (n : Nat) {act : Act}
    (hknown : ∀ scene ∈ act.scenes, ∀ line ∈ scene.lines, ∀ id ∈ line.mentions, known id) :
    Yields (Dramatize.composeAct (Vocabulary.of standard cast) n act) (PlayAct.Composed names) := by
  have scene : ∀ numbered ∈ act.scenes.zipIdx 1,
      Yields (Dramatize.composeScene (Vocabulary.of standard cast) ⟨n, numbered.2⟩ numbered.1)
        (PlayScene.Composed names) := fun numbered h =>
    composeScene_composed hdrawn hnames _ (hknown numbered.1 (List.fst_mem_of_mem_zipIdx h))
  refine (yields_mapM_all scene).bind fun told htold => (numbered_isNumeral n).bind fun numeral hnumeral => ?_
  exact yields_pure ⟨hnumeral, htold⟩

theorem composeActs_composed {acts : List Act}
    (hknown : ∀ act ∈ acts, ∀ scene ∈ act.scenes, ∀ line ∈ scene.lines, ∀ id ∈ line.mentions, known id) :
    Yields (Dramatize.composeActs (Vocabulary.of standard cast) acts) fun told =>
      ∀ act ∈ told, act.Composed names :=
  yields_mapM_all fun numbered h =>
    composeAct_composed hdrawn hnames numbered.2 (hknown numbered.1 (List.fst_mem_of_mem_zipIdx h))

end Yields

/-- **The play of a program is composed**, whatever its free texts, if all characters of the program are declared. -/
theorem composed_of_dramatize {program : Program} (closed : program.Closed) {seed : UInt64} {play : Play}
    (hplay : program.dramatize standard seed = .ok play) : play.Composed := by
  obtain ⟨filled, cast, hnaming, hacts, hpersonae⟩ := dramatize_eq_ok hplay
  obtain ⟨hgrows, hnamed, hdeclared, hlines⟩ := Naming.ofProgram_eq_ok hnaming
  have drawn := Cast.drawn_of_grows hgrows
  have names : play.personae.map (·.name) = cast.namesFor program.declared := by
    rw [hpersonae, names_personae hdeclared]
  have standardName : ∀ persona ∈ play.personae, persona.name ∈ standardCast := fun persona hpersona =>
    Cast.mem_standardCast_of_namesFor drawn hnamed _ (names ▸ List.mem_map_of_mem hpersona)
  have listed : ∀ id name, id ∈ program.declared → cast.nameOf id = some name → name ∈ play.personae.map (·.name) := by
    intro id name hid hname
    rw [names]
    exact List.mem_map.2 ⟨id, hid, by rw [hname]; rfl⟩
  refine ⟨fun persona hpersona => standard_prints.names _ (standardName persona hpersona),
    fun persona hpersona other hother h => ?_,
    composeActs_composed drawn listed (closed.mem_declared hlines) _ _ hacts⟩
  exact List.inj_on_of_nodup_map standard_names.lowercase_nodup (standardName other hother)
    (standardName persona hpersona) (Text.lowercase_congr h)

/-- **The play of a program is legible** if its free texts are neat and all characters of the program are declared. -/
theorem legible_of_dramatize {program : Program} (closed : program.Closed) {seed : UInt64} {play : Play}
    (hplay : program.dramatize standard seed = .ok play) (htitle : play.title ≠ "")
    (hneat : ∀ text ∈ play.freeTexts, Neat text) : play.Legible :=
  ⟨composed_of_dramatize closed hplay, htitle, hneat⟩

/-- **Plays come back from their text.** Let a program without defects have a play, with words chosen by any seed, and
let no free text of the play have a line feed or begin or end with a blank, nor its title be empty. Parsing the rendered
play gives exactly the play, and so does parsing any text that differs from the rendering in spaces of speeches that
have become line breaks, with any indentation and blank lines. -/
theorem parse_render {program : Program} {script : Script} {seed : UInt64} {play : Play}
    (hcompile : program.compile = .ok script) (hplay : program.dramatize standard seed = .ok play)
    (htitle : play.title ≠ "") (hneat : ∀ text ∈ play.freeTexts, Neat text) :
    Play.parse play.render = .ok play ∧ ∀ text, play.LaidOut text → Play.parse text = .ok play := by
  have sound := (Program.defects_eq_nil_iff program).1 (Program.compile_eq_ok_iff.1 hcompile).1
  have legible := legible_of_dramatize sound.closed hplay htitle hneat
  exact ⟨parse_laidOut legible (laidOut_render play), fun text => parse_laidOut legible⟩

/-- a play whose title and descriptions look like headings, directions and speakers, and a layout of it that breaks the
speech in two places -/
theorem parse_render_of_lookalikes :
    let program : Program := ⟨"Act I: a title", [⟨⟨"x"⟩, "of [two] words, few: Romeo:"⟩],
      [⟨"[Exit Romeo]", [⟨"", [.direction (.enter [⟨"x"⟩]), .speech ⟨"x"⟩ [.input .integer, .recall]]⟩]⟩]⟩
    let text := "Act I: a title\n\nRomeo, of [two] words, few: Romeo:\n\n\nAct I: [Exit Romeo]\n\nScene I: \n\n" ++
      "[Enter Romeo]\n\nRomeo:\n Listen to your\n\n\t heart! Recall\nyour past.\n"
    ∃ script play, program.compile = .ok script ∧ program.dramatize standard 0 = .ok play ∧ play.title ≠ "" ∧
      (∀ text ∈ play.freeTexts, Neat text) ∧ play.LaidOut text ∧ text ≠ play.render ∧
      Play.parse play.render = .ok play ∧ Play.parse text = .ok play := by
  intro program text
  have compiled : program.compile = .ok program.lower := rfl
  let speech := ["Listen to your heart!", "Recall your past."]
  let play : Play := ⟨"Act I: a title", [⟨"Romeo", "of [two] words, few: Romeo:"⟩],
    [⟨"I", "[Exit Romeo]", [⟨"I", "", [.direction "Enter Romeo", .speech "Romeo" speech]⟩]⟩]⟩
  have hplay : program.dramatize standard 0 = .ok play := eq_ok_of_toOption (by decide +kernel)
  have gaps : Gap "\n\n\t ".toList ∧ Gap "\n".toList := ⟨⟨by decide, by decide⟩, by decide, by decide⟩
  have parts : speechText speech =
      " Listen to your".toList ++ ' ' :: ("heart! Recall".toList ++ ' ' :: "your past.".toList) := by decide
  have wrapped : Wrapped (speechText speech) (" Listen to your".toList ++
      ("\n\n\t ".toList ++ ("heart! Recall".toList ++ ("\n".toList ++ "your past.".toList)))) := by
    rw [parts]
    refine (Wrapped.refl " Listen to your".toList).append (.wrap gaps.1 ?_)
    exact (Wrapped.refl "heart! Recall".toList).append (.wrap gaps.2 (.refl _))
  have laidOut : play.LaidOut text := by
    refine ⟨_, .cons ⟨_, .cons ⟨_, .cons (.direction _) (.cons (.speech _ wrapped) .nil), rfl⟩ .nil, rfl⟩ .nil, ?_⟩
    decide +kernel
  have htitle : play.title ≠ "" := by decide
  have hneat : ∀ text ∈ play.freeTexts, Neat text := by decide
  obtain ⟨rendered, layouts⟩ := parse_render compiled hplay htitle hneat
  exact ⟨_, play, compiled, hplay, htitle, hneat, laidOut, by decide +kernel, rendered, layouts text laidOut⟩

end Conversion

end Playscript
