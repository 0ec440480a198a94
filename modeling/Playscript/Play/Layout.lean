/-
The layout of a play as text: title, dramatis personae, then acts and scenes under their headings, each speech on a
line of its own below its speaker.
-/
import Playscript.Play

namespace Playscript

namespace PlayLine

def text : PlayLine → String
  | .direction text => "\n[" ++ text ++ "]\n"
  | .speech speaker sentences => "\n" ++ speaker ++ ":\n " ++ " ".intercalate sentences ++ "\n"

end PlayLine

def Persona.text (persona : Persona) : String := persona.name ++ ", " ++ persona.description ++ "\n"

def PlayScene.text (scene : PlayScene) : String :=
  "\nScene " ++ scene.numeral ++ ": " ++ scene.description ++ "\n" ++ String.join (scene.lines.map PlayLine.text)

def PlayAct.text (act : PlayAct) : String :=
  "\n\nAct " ++ act.numeral ++ ": " ++ act.description ++ "\n" ++ String.join (act.scenes.map PlayScene.text)

/-- the play laid out as text -/
def Play.render (play : Play) : String :=
  play.title ++ "\n\n" ++ String.join (play.personae.map Persona.text) ++
    String.join (play.acts.map PlayAct.text)

end Playscript
