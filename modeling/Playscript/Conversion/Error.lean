/-
Why a program has no play or a play no program.
-/
import Playscript.Cast
import Playscript.Program
import Playscript.Sentence

namespace Playscript

/-- the two kinds of numbered headings -/
inductive HeadingKind where
  | act
  | scene
  deriving DecidableEq, Repr

def HeadingKind.text : HeadingKind → String
  | .act => "act"
  | .scene => "scene"

inductive ConversionError where
  | cast (cause : CastError)
  /-- an act or a scene cannot be numbered -/
  | numeral (cause : JumpError)
  | sentence (place : Location) (cause : SentenceError)
  /-- a speaker who was not declared -/
  | unnamedSpeaker (place : Location) (speaker : Ident)
  /-- a speaker who is not in the dramatis personae -/
  | unknownSpeaker (place : Location) (name : String)
  | outOfSequence (kind : HeadingKind) (expected found : String)
  deriving DecidableEq, Repr

def ConversionError.message : ConversionError → String
  | .cast cause => cause.message
  | .numeral cause => cause.message
  | .sentence place cause => s!"{place.text}: {cause.message}"
  | .unnamedSpeaker place speaker => s!"{place.text}: '{speaker.text}' speaks but has no name"
  | .unknownSpeaker place name => s!"{place.text}: '{name}' speaks but is not in the dramatis personae"
  | .outOfSequence kind expected found => s!"expected {kind.text} {expected}, found '{found}'"

end Playscript
