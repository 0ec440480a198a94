/-
Parsing a play, rendering it and parsing it again.

Parsing joins the lines of a speech, and trims whatever stands around a name, so the rendered play may have lines that
its text did not have. It is the same play again unless one of them looks like a heading.

- `Play.Unmistakable`: no character and no speech of the play looks like a heading;
- `Spoken.reads`: what is said in a parsed play is read as it is, if it is no heading;
- `parse_render_of_unmistakable`, `unmistakable_of_parse`: one direction and the other;
- `parse_render_again`: a parsed play comes back from its rendering exactly if it is unmistakable;
- `parse_render_promoted`: a speech that comes back as the heading of an act.
-/
import Playscript.Proofs.Play.Parsed
import Playscript.Proofs.Play.Spilling

namespace Playscript

/-- a line of the play that cannot be taken for a heading, all that is said in it being one line of text -/
def PlayLine.Unmistakable : PlayLine → Prop
  | .direction _ => True
  | .speech _ sentences => ∀ keyword ∈ ["Act", "Scene"], heading? keyword (" ".intercalate sentences).toList = none

instance (line : PlayLine) : Decidable line.Unmistakable :=
  match line with
  | .direction _ => inferInstanceAs (Decidable True)
  | .speech _ sentences =>
    inferInstanceAs (Decidable (∀ keyword ∈ ["Act", "Scene"], heading? keyword (" ".intercalate sentences).toList = none))

/-- a play in which no character can be taken for the heading of an act, and no speech for a heading -/
structure Play.Unmistakable (play : Play) : Prop where
  personae : ∀ persona ∈ play.personae, heading? "Act" (persona.name ++ ", " ++ persona.description).toList = none
  lines : ∀ act ∈ play.acts, ∀ scene ∈ act.scenes, ∀ line ∈ scene.lines, line.Unmistakable

theorem toList_introduction (name description : String) :
    (name ++ ", " ++ description).toList = name.toList ++ ',' :: ' ' :: description.toList := by
  simp

theorem Neat.fits {text : String} (h : Neat text) : '\n' ∉ Text.dropBlankBack text.toList :=
  fun hmem => h.1 (Text.mem_of_mem_dropBlankBack hmem)

/-! ## Speeches -/

/-- what is said is on one line, if it is anything -/
theorem Spoken.inkLines_eq {sentences : List String} (h : Spoken sentences) (hne : sentences ≠ []) :
    inkLines (speechText sentences) = [(" ".intercalate sentences).toList] ∧
      Speakable (" ".intercalate sentences).toList := by
  have said := h.text.resolve_left hne
  exact ⟨(inkLines_cons_blank (by decide) _).trans (inkLines_tight said.tight said.newline), said⟩

/-- **What is said is read as it is**, if it is no heading. -/
theorem Spoken.reads {speaker : String} {sentences : List String} (h : Spoken sentences)
    (hline : (PlayLine.speech speaker sentences).Unmistakable) {draft : Draft} (hspeaking : draft.Speaking speaker "") :
    draft.Reads (inkLines (speechText sentences)) (draft.speaking speaker (" ".intercalate sentences)) := by
  by_cases hnone : sentences = []
  · subst hnone
    obtain ⟨title, personae, acts, speech⟩ := draft
    obtain ⟨-, -, rfl⟩ := hspeaking
    exact .nil _
  · obtain ⟨lines, said⟩ := h.inkLines_eq hnone
    have kind := lineKind_eq_text_iff.2 ⟨hline "Act" (by simp), hline "Scene" (by simp), said.opens, said.closes⟩
    have step := Draft.step_text hspeaking kind
    rw [Draft.extended_empty, String.ofList_toList] at step
    rw [lines]
    exact .single step

/-! ## A play that is unmistakable -/

section Unmistakable

variable {personae : List Persona}

theorem PlayLine.Proper.adds {line : PlayLine} (h : line.Proper personae) (hline : line.Unmistakable) :
    Draft.AddsLine personae line line.text.toList := by
  cases line with
  | direction text => exact PlayLine.toList_direction text ▸ Draft.addsLine_direction h
  | speech speaker sentences =>
    obtain ⟨hspeaker, hspoken⟩ := h
    have adds := Draft.addsLine_speech hspeaker fun _ hspeaking => hspoken.reads hline hspeaking
    rwa [hspoken.again, ← PlayLine.toList_speech] at adds

theorem PlayScene.Proper.adds {scene : PlayScene} (h : scene.Proper personae)
    (hlines : ∀ line ∈ scene.lines, line.Unmistakable) : Draft.AddsScene personae scene scene.text.toList := by
  have lines : List.Forall₂ (Draft.AddsLine personae) scene.lines (scene.lines.map (·.text.toList)) := by
    rw [List.forall₂_map_right_iff, List.forall₂_same]
    exact fun line hline => (h.lines line hline).adds (hlines line hline)
  have adds := Draft.addsScene h.numeral h.description.fits lines
  rwa [h.description.2, ← scene.toList_text] at adds

theorem PlayAct.Proper.adds {act : PlayAct} (h : act.Proper personae)
    (hlines : ∀ scene ∈ act.scenes, ∀ line ∈ scene.lines, line.Unmistakable) :
    Draft.AddsAct personae act act.text.toList := by
  have scenes : List.Forall₂ (Draft.AddsScene personae) act.scenes (act.scenes.map (·.text.toList)) := by
    rw [List.forall₂_map_right_iff, List.forall₂_same]
    exact fun scene hscene => (h.scenes scene hscene).adds (hlines scene hscene)
  have adds := Draft.addsAct h.numeral h.description.fits scenes
  rwa [h.description.2, ← act.toList_text] at adds

theorem Persona.Proper.adds {persona : Persona} (h : persona.Proper)
    (hact : heading? "Act" (persona.name ++ ", " ++ persona.description).toList = none) :
    Draft.AddsPersona persona persona.text.toList := by
  rw [toList_introduction] at hact
  have adds := Draft.addsPersona h.description.fits h.name h.no_comma hact
  rwa [h.description.2] at adds

/-- **An unmistakable play comes back from its rendering.** -/
theorem parse_render_of_unmistakable {play : Play} (h : play.Proper) (hclear : play.Unmistakable) :
    Play.parse play.render = .ok play := by
  have trimmed : Text.trim play.title = play.title := h.title.2
  have personae : List.Forall₂ Draft.AddsPersona play.personae (play.personae.map (·.text.toList)) := by
    rw [List.forall₂_map_right_iff, List.forall₂_same]
    exact fun persona hpersona => (h.personae persona hpersona).adds (hclear.personae persona hpersona)
  have acts : List.Forall₂ (Draft.AddsAct play.personae) play.acts (play.acts.map (·.text.toList)) := by
    rw [List.forall₂_map_right_iff, List.forall₂_same]
    exact fun act hact => (h.acts act hact).adds (hclear.lines act hact)
  have parts : play.render.toList = play.title.toList ++ "\n\n".toList ++
      (play.personae.map (·.text.toList)).flatten ++ (play.acts.map (·.text.toList)).flatten := by
    rw [play.toList_render, List.flatMap_def]
  have parsed := Draft.parse_of_parts (trimmed.symm ▸ h.titled) (trimmed.symm ▸ h.title.1) personae acts parts
  rwa [trimmed] at parsed

end Unmistakable

/-! ## A play that is mistaken -/

theorem PlayLine.Proper.outlined {personae : List Persona} {line : PlayLine} (h : line.Proper personae) :
    line.Outlined := by
  cases line with
  | direction text => exact outlined_direction (And.left h)
  | speech speaker sentences => exact outlined_speech h.1 sentences

theorem Play.Proper.outlined {play : Play} (h : play.Proper) : play.Outlined where
  personae persona hpersona := (h.personae persona hpersona).name
  acts act hact :=
    ⟨(h.acts act hact).numeral, fun scene hscene =>
      ⟨((h.acts act hact).scenes scene hscene).numeral, fun line hline =>
        (((h.acts act hact).scenes scene hscene).lines line hline).outlined⟩⟩

theorem said_subset_rest {act : PlayAct} {scene : PlayScene} (hscene : scene ∈ act.scenes) {line : PlayLine}
    (hline : line ∈ scene.lines) : line.said ⊆ act.rest := by
  intro row hrow
  have inScene : row ∈ scene.rest := List.mem_append_right _ (List.mem_flatMap.2 ⟨line, hline, hrow⟩)
  exact List.mem_append_right _ (List.mem_flatMap.2 ⟨scene, hscene, inScene⟩)

/-- the line of a character -/
theorem Persona.Proper.inkLines_eq {persona : Persona} (h : persona.Proper) : inkLines persona.text.toList =
    [Text.dropBlankBack (persona.name ++ ", " ++ persona.description).toList] := by
  have comma : Text.isBlank ',' = false := rfl
  have tight : Text.Tight (persona.name.toList ++ [',']) :=
    Text.trimChars_of_trim h.name.2 ▸ Text.tight_mark persona.name.toList comma
  rw [persona.toList_text, inkLines_append_newline, inkLines_oneLine tight (by simp [h.name.1])
    (newline_behind_space h.description.fits), toList_introduction, Text.dropBlankBack_append comma]
  simp

/-- **A play that comes back from its rendering is unmistakable**: its lines count what it has, so that no character and
no speech adds a heading to it. -/
theorem unmistakable_of_parse {play : Play} (h : play.Proper) (hparse : Play.parse play.render = .ok play) :
    play.Unmistakable := by
  have titled : Text.trim play.title ≠ "" := h.title.2.symm ▸ h.titled
  obtain ⟨line, later, titleLines, -⟩ := inkLines_title titled
  have rows := inkLines_render play
  rw [titleLines, List.cons_append, List.cons_append] at rows
  obtain ⟨hpersonae, hacts⟩ := Draft.counts_of_parse hparse rows
  obtain ⟨-, -, personaKinds, restText⟩ := rest_of_counts h.outlined rfl hpersonae hacts
  refine ⟨fun persona hpersona => ?_, fun act hact scene hscene line hline => ?_⟩
  · have kind := personaKinds persona hpersona _ ((h.personae persona hpersona).inkLines_eq ▸ List.mem_singleton_self _)
    cases hheading : heading? "Act" (persona.name ++ ", " ++ persona.description).toList with
    | none => rfl
    | some heading => exact absurd (lineKind_act ((heading?_dropBlankBack "Act" _).trans hheading)) kind
  · cases line with
    | direction text => trivial
    | speech speaker sentences =>
      obtain ⟨-, hspoken⟩ := ((h.acts act hact).scenes scene hscene).lines _ hline
      by_cases hnone : sentences = []
      · subst hnone
        exact fun keyword _ => heading?_eq_none (by simp)
      · obtain ⟨lines, -⟩ := hspoken.inkLines_eq hnone
        have kind := restText _ (List.mem_flatMap.2 ⟨act, hact, said_subset_rest hscene hline
          (lines ▸ List.mem_singleton_self (" ".intercalate sentences).toList)⟩)
        obtain ⟨noAct, noScene, -, -⟩ := lineKind_eq_text_iff.1 kind
        exact List.forall_mem_cons.2 ⟨noAct, List.forall_mem_singleton.2 noScene⟩

/-- **A parsed play comes back from its rendering exactly if it is unmistakable.** Let any text be parsed as a play. The
play, rendered and parsed again, is the same play if, and only if, no character's line "Name, description" is the
heading of an act, and no speech, its sentences put together with spaces, is the heading of an act or a scene. -/
theorem parse_render_again {text : String} {play : Play} (h : Play.parse text = .ok play) :
    Play.parse play.render = .ok play ↔ play.Unmistakable :=
  ⟨unmistakable_of_parse (proper_of_parse h), parse_render_of_unmistakable (proper_of_parse h)⟩

/-- a play in which a character, a speech over three lines and the spelling of headings and names are close to what would
be mistaken -/
theorem parse_render_again_lookalikes :
    let text := "The gate\n\nActaeon, a hunter: of stags\nScene , who waits\n\nACT  I : outside\nscene I:a [gate]\n\n" ++
      "actaeon :\n Act\n now [here]: or never!? Scene\n I said\n[ Exit Actaeon ]\n"
    ∃ play, Play.parse text = .ok play ∧ play.Unmistakable ∧ play.render ≠ text ∧ Play.parse play.render = .ok play := by
  intro text
  let play : Play := ⟨"The gate", [⟨"Actaeon", "a hunter: of stags"⟩, ⟨"Scene", "who waits"⟩],
    [⟨"I", "outside", [⟨"I", "a [gate]",
      [.speech "Actaeon" ["Act now [here]: or never!", "?", "Scene I said"], .direction "Exit Actaeon"]⟩]⟩]⟩
  have hparse : Play.parse text = .ok play := eq_ok_of_toOption (by decide +kernel)
  have hclear : play.Unmistakable := by
    constructor
    · decide
    · decide
  exact ⟨play, hparse, hclear, by decide, (parse_render_again hparse).2 hclear⟩

/-- **A speech can become an act.** It stands on two lines, neither of which is a heading, but the rendering has it on
one. -/
theorem parse_render_promoted :
    let text := "Advice\n\nRomeo, a friend.\n\nAct I: The street.\n\nScene I: A corner.\n\n" ++
      "Romeo:\n Act\n now: speak your mind!\n"
    ∃ play again, Play.parse text = .ok play ∧ Play.parse play.render = .ok again ∧ again ≠ play := by
  intro text
  let play : Play := ⟨"Advice", [⟨"Romeo", "a friend."⟩],
    [⟨"I", "The street.", [⟨"I", "A corner.", [.speech "Romeo" ["Act now: speak your mind!"]]⟩]⟩]⟩
  let again : Play := ⟨"Advice", [⟨"Romeo", "a friend."⟩],
    [⟨"I", "The street.", [⟨"I", "A corner.", [.speech "Romeo" []]⟩]⟩, ⟨"now", "speak your mind!", []⟩]⟩
  have hparse : Play.parse text = .ok play := eq_ok_of_toOption (by decide)
  have hagain : Play.parse play.render = .ok again := eq_ok_of_toOption (by decide)
  exact ⟨play, again, hparse, hagain, by decide⟩

end Playscript
