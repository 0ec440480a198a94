/-
Sentences: one statement has one sentence, up to the choice of words. This module says why a statement has no sentence
or a sentence no statement, and which form of a statement comes back from its sentence: the speaker's own name becomes
a role, and sums that are binary expansions fold.
-/
import Playscript.Jump
import Playscript.Phrase.Meaning

namespace Playscript

/-- words that a sentence needs beside its phrases -/
inductive ScaffoldWord where
  | adjective
  | comparative
  deriving DecidableEq, Repr

def ScaffoldWord.text : ScaffoldWord → String
  | .adjective => "adjective"
  | .comparative => "comparative"

inductive SentenceError where
  | phrase (cause : PhraseError)
  | jump (cause : JumpError)
  | mismatch (mismatch : Mismatch)
  | nestedConditional
  | unrecognized (sentence : String)
  | unknownCharacter (id : Ident)
  | unknownName (name : String)
  | emptyEntrance
  | noWord (missing : ScaffoldWord)
  deriving DecidableEq, Repr

def SentenceError.message : SentenceError → String
  | .phrase cause => cause.message
  | .jump cause => cause.message
  | .mismatch m => m.message
  | .nestedConditional => "a conditional cannot guard another conditional"
  | .unrecognized sentence => s!"unrecognized sentence '{sentence}'"
  | .unknownCharacter id => s!"character '{id.text}' has no name"
  | .unknownName name => s!"no character is called '{name}'"
  | .emptyEntrance => "nobody enters"
  | .noWord missing => s!"the lexicon has no usable {missing.text}"

/-- the value as `speaker` says it and it is understood again -/
def Value.spokenBy (speaker : Ident) (value : Value) : Value := (value.withSpeakerAsRole speaker).canonical

/-- the statement as it comes back from the sentence in which `speaker` says it -/
def Statement.canonical (speaker : Ident) : Statement → Statement
  | .assign value => .assign (value.spokenBy speaker)
  | .remember value => .remember (value.spokenBy speaker)
  | .compare c => .compare { c with lhs := c.lhs.spokenBy speaker, rhs := c.rhs.spokenBy speaker }
  | .conditional polarity body => .conditional polarity (body.canonical speaker)
  | other => other

end Playscript
