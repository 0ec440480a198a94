/-
What phrases and sentences are made and understood with: a lexicon, a cast, and the stock of words it may choose from.

No word of a character's name is ever chosen, so a name cannot be taken for a noun or an adjective. Where words of the
wanted polarity are lacking, neutral ones serve, except as negative nouns.
-/
import Playscript.Cast
import Playscript.Generator

namespace Playscript

/-- the words that may be chosen -/
structure Stock where
  nouns : WordClass
  adjectives : WordClass
  comparatives : Comparatives
  deriving DecidableEq, Repr

/-- the words of the table that satisfy a test -/
def WordClass.filter (usable : String → Bool) (table : WordClass) : WordClass :=
  ⟨table.positive.filter usable, table.neutral.filter usable, table.negative.filter usable⟩

def Comparatives.filter (usable : String → Bool) (table : Comparatives) : Comparatives :=
  ⟨table.positive.filter usable, table.negative.filter usable⟩

/-- the words of the characters' names in small letters -/
def Cast.reserved (cast : Cast) : List String :=
  (cast.names.flatMap Text.words).map Text.lowercase

namespace Stock

def of (lexicon : Lexicon) (cast : Cast) : Stock :=
  let reserved := cast.reserved
  let usable := fun word => !reserved.contains (Text.lowercase word)
  ⟨lexicon.nouns.filter usable, lexicon.adjectives.filter usable, lexicon.comparatives.filter usable⟩

/-- `fallback` where `preferred` has no words -/
def orElse (preferred fallback : List String) : List String :=
  if preferred.isEmpty then fallback else preferred

/-- nouns worth plus one, or minus one -/
def nounsFor (stock : Stock) (negative : Bool) : List String :=
  if negative then stock.nouns.negative else orElse stock.nouns.positive stock.nouns.neutral

def adjectivesFor (stock : Stock) (polarity : Polarity) : List String :=
  orElse (stock.adjectives.words polarity) stock.adjectives.neutral

def comparativesFor (stock : Stock) : Polarity → List String
  | .negative => stock.comparatives.negative
  | .positive => stock.comparatives.positive
  | .neutral => stock.comparatives.positive

end Stock

structure Vocabulary where
  lexicon : Lexicon
  cast : Cast
  stock : Stock
  deriving DecidableEq, Repr

def Vocabulary.of (lexicon : Lexicon) (cast : Cast) : Vocabulary :=
  ⟨lexicon, cast, Stock.of lexicon cast⟩

/-- computations that choose words as they go; what has been drawn stays drawn when they fail -/
abbrev Choosing (ε : Type) := ExceptT ε (StateM Generator)

/-- one of the words, or the error if there is none -/
def chooseOr {ε : Type} (missing : ε) (words : List String) : Choosing ε String := fun g =>
  match Generator.choose words g with
  | (some word, g) => (.ok word, g)
  | (none, g) => (.error missing, g)

end Playscript
