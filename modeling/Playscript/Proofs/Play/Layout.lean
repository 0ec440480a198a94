/-
Layouts of a play.

- `Wrapped`: a text with some of its spaces replaced by line breaks, each with any indentation and blank lines;
- `Play.LaidOut`: the texts that differ from the rendered play in how its speeches are broken into lines;
- `laidOut_render`: the rendered play is one of them.
-/
import Playscript.Play.Layout
import Playscript.Proofs.Text.Trimming
import Mathlib.Data.List.Forall2

namespace Playscript

/-- a line break with what may stand around it: blanks, at least one of them a line feed -/
def Gap (cs : List Char) : Prop := Text.Blank cs ∧ '\n' ∈ cs

/-- the first text with some of its spaces replaced by line breaks -/
inductive Wrapped : List Char → List Char → Prop where
  | done : Wrapped [] []
  | keep {cs ds : List Char} (c : Char) : Wrapped cs ds → Wrapped (c :: cs) (c :: ds)
  | wrap {gap cs ds : List Char} : Gap gap → Wrapped cs ds → Wrapped (' ' :: cs) (gap ++ ds)

theorem Wrapped.refl (cs : List Char) : Wrapped cs cs := by
  induction cs with
  | nil => exact .done
  | cons c cs ih => exact .keep c ih

theorem Wrapped.append {cs ds cs' ds' : List Char} (h : Wrapped cs ds) (h' : Wrapped cs' ds') :
    Wrapped (cs ++ cs') (ds ++ ds') := by
  induction h with
  | done => exact h'
  | keep c _ ih => exact .keep c ih
  | @wrap gap _ ds hgap _ ih =>
    rw [List.append_assoc]
    exact .wrap hgap ih

/-! ## Parts of a layout -/

/-- a speech as one line of text, below the line of its speaker -/
def speechText (sentences : List String) : List Char := ' ' :: (" ".intercalate sentences).toList

/-- the text of a line of the play, where the text of a speech may have been broken into lines -/
inductive PlayLine.LaidOut : PlayLine → List Char → Prop where
  | direction (text : String) : LaidOut (.direction text) ("\n[".toList ++ text.toList ++ "]\n".toList)
  | speech (speaker : String) {sentences : List String} {body : List Char} : Wrapped (speechText sentences) body →
    LaidOut (.speech speaker sentences) ("\n".toList ++ speaker.toList ++ ":\n".toList ++ body ++ "\n".toList)

/-- the heading of a scene or an act, below `blank` lines -/
def headingText (blank keyword numeral description : String) : List Char :=
  blank.toList ++ keyword.toList ++ ' ' :: numeral.toList ++ ": ".toList ++ description.toList ++ "\n".toList

/-- a heading in the parts in which it is read -/
theorem headingText_eq (blank keyword numeral description : String) : headingText blank keyword numeral description =
    blank.toList ++
      (keyword.toList ++ (' ' :: numeral.toList ++ [':']) ++ ' ' :: description.toList ++ "\n".toList) := by
  simp [headingText]

def PlayScene.LaidOut (scene : PlayScene) (cs : List Char) : Prop :=
  ∃ lines, List.Forall₂ PlayLine.LaidOut scene.lines lines ∧
    cs = headingText "\n" "Scene" scene.numeral scene.description ++ lines.flatten

def PlayAct.LaidOut (act : PlayAct) (cs : List Char) : Prop :=
  ∃ scenes, List.Forall₂ PlayScene.LaidOut act.scenes scenes ∧
    cs = headingText "\n\n" "Act" act.numeral act.description ++ scenes.flatten

/-- a layout of the play: its rendering, but for the breaks between the lines of each speech -/
def Play.LaidOut (play : Play) (text : String) : Prop :=
  ∃ acts, List.Forall₂ PlayAct.LaidOut play.acts acts ∧
    text.toList = play.title.toList ++ "\n\n".toList ++
      (play.personae.flatMap fun persona => persona.text.toList) ++ acts.flatten

/-! ## The rendering -/

theorem PlayLine.toList_direction (text : String) :
    (PlayLine.direction text).text.toList = "\n[".toList ++ text.toList ++ "]\n".toList := by
  simp [PlayLine.text, String.toList_append]

theorem PlayLine.toList_speech (speaker : String) (sentences : List String) :
    (PlayLine.speech speaker sentences).text.toList =
      "\n".toList ++ speaker.toList ++ ":\n".toList ++ speechText sentences ++ "\n".toList := by
  simp [PlayLine.text, speechText, String.toList_append]

theorem Persona.toList_text (persona : Persona) : persona.text.toList =
    persona.name.toList ++ [','] ++ ' ' :: persona.description.toList ++ "\n".toList := by
  simp [Persona.text, String.toList_append]

theorem PlayScene.toList_text (scene : PlayScene) : scene.text.toList =
    headingText "\n" "Scene" scene.numeral scene.description ++ (scene.lines.map (·.text.toList)).flatten := by
  simp [PlayScene.text, headingText, String.toList_append, String.toList_join, Function.comp_def, List.flatMap_def]

theorem PlayAct.toList_text (act : PlayAct) : act.text.toList =
    headingText "\n\n" "Act" act.numeral act.description ++ (act.scenes.map (·.text.toList)).flatten := by
  simp [PlayAct.text, headingText, String.toList_append, String.toList_join, Function.comp_def, List.flatMap_def]

theorem Play.toList_render (play : Play) : play.render.toList = play.title.toList ++ "\n\n".toList ++
    (play.personae.flatMap fun persona => persona.text.toList) ++ (play.acts.map (·.text.toList)).flatten := by
  simp [Play.render, String.toList_append, String.toList_join, Function.comp_def, List.flatMap_def]

theorem laidOut_line (line : PlayLine) : line.LaidOut line.text.toList := by
  cases line with
  | direction text => exact PlayLine.toList_direction text ▸ .direction text
  | speech speaker sentences => exact PlayLine.toList_speech speaker sentences ▸ .speech speaker (.refl _)

theorem forall₂_map_self {α β : Type} {R : α → β → Prop} {f : α → β} (h : ∀ a, R a (f a)) (items : List α) :
    List.Forall₂ R items (items.map f) := by
  induction items with
  | nil => exact .nil
  | cons a items ih => exact .cons (h a) ih

theorem laidOut_scene (scene : PlayScene) : scene.LaidOut scene.text.toList :=
  ⟨_, forall₂_map_self laidOut_line scene.lines, scene.toList_text⟩

theorem laidOut_act (act : PlayAct) : act.LaidOut act.text.toList :=
  ⟨_, forall₂_map_self laidOut_scene act.scenes, act.toList_text⟩

/-- **The rendering of a play is a layout of it.** -/
theorem laidOut_render (play : Play) : play.LaidOut play.render :=
  ⟨_, forall₂_map_self laidOut_act play.acts, play.toList_render⟩

end Playscript
