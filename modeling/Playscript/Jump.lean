/-
Sentences of control: jumps to a scene or to an act and a scene, and the words that make a sentence conditional.
-/
import Playscript.Numeral
import Playscript.Statement

namespace Playscript.Jump

def compose (lexicon : Lexicon) (target : JumpTarget) : Except JumpError String := do
  let scene ← lexicon.numeral target.scene
  match target.act with
  | none => return s!"Let us proceed to scene {scene}."
  | some n =>
    let act ← lexicon.numeral n
    return s!"Let us proceed to act {act}, scene {scene}."

/-- the place that the next word counts to; the word is taken even if it is no numeral -/
def readNumeral (lexicon : Lexicon) : Words → Except (Stopped JumpError) (Nat × Words)
  | [] => .error ⟨.mismatch (Words.mismatch [] "numeral"), []⟩
  | word :: ws =>
    match lexicon.parseNumeral word with
    | .ok n => .ok (n, ws)
    | .error cause => .error ⟨cause, ws⟩

/-- the act that a jump names, if it names one -/
def readAct (lexicon : Lexicon) (ws : Words) : Except (Stopped JumpError) (Option Nat × Words) :=
  match Words.eat "act" ws with
  | none => .ok (none, ws)
  | some ws => do
    let (act, ws) ← readNumeral lexicon ws
    let ws ← Words.expect .mismatch "," ws
    return (some act, ws)

/-- a jump, or nothing, and nothing taken, when the words do not open as one -/
def read (lexicon : Lexicon) (ws : Words) : Except (Stopped JumpError) (Option JumpTarget × Words) :=
  match Words.eatPhrase "let us proceed to" ws <|> Words.eatPhrase "let us return to" ws with
  | none => .ok (none, ws)
  | some ws => do
    let (act, ws) ← readAct lexicon ws
    let ws ← Words.expect .mismatch "scene" ws
    let (scene, ws) ← readNumeral lexicon ws
    return (some ⟨act, scene⟩, ws)

/-- the words that open a conditional of this polarity -/
def marker (polarity : Bool) : String := if polarity then "If so," else "If not,"

/-- the polarity of a conditional whose opening comes next, and the words after it -/
def readMarker (ws : Words) : Option Bool × Words :=
  match ws with
  | opening :: word :: "," :: rest =>
    if Text.same opening "if" then
      if Text.same word "so" then (some true, rest)
      else if Text.same word "not" then (some false, rest)
      else (none, ws)
    else (none, ws)
  | _ => (none, ws)

end Playscript.Jump
