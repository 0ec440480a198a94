/-
Why a value has no phrase, a phrase has no value, or some words are no phrase.
-/
import Playscript.Value
import Playscript.Words

namespace Playscript

/-- the parts of speech that spell a number -/
inductive NumberWord where
  | noun
  | adjective
  deriving DecidableEq, Repr

def NumberWord.text : NumberWord → String
  | .noun => "noun"
  | .adjective => "adjective"

inductive PhraseError where
  /-- no word of the wanted kind is left to spell a number with -/
  | unrepresentable (value : Int64) (missing : NumberWord)
  | missingPronoun (role : Role)
  | unknownCharacter (id : Ident)
  | unknownOperator (word : String)
  | unknownWord (word : String)
  | unknownName (name : String)
  | polarityMismatch (adjective noun : String)
  | overflow (adjectives : Nat)
  | mismatch (mismatch : Mismatch)
  deriving DecidableEq, Repr

def PhraseError.message : PhraseError → String
  | .unrepresentable value missing =>
    s!"cannot express {value.toInt}: the lexicon has no usable {missing.text}"
  | .missingPronoun role => s!"the lexicon has no pronoun for the {role.name}"
  | .unknownCharacter id => s!"character '{id.text}' has no name"
  | .unknownOperator word => s!"unknown operator '{word}'"
  | .unknownWord word => s!"unknown word '{word}'"
  | .unknownName name => s!"no character is called '{name}'"
  | .polarityMismatch adjective noun => s!"adjective '{adjective}' cannot qualify noun '{noun}'"
  | .overflow adjectives => s!"a noun with {adjectives} adjectives does not fit in 64 bits"
  | .mismatch m => m.message

end Playscript
