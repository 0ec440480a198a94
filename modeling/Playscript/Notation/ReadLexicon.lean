/-
Lexicons in the object notation. Only the word lists of nouns and adjectives may be left out.
-/
import Playscript.Lexicon
import Playscript.Notation.Decode

namespace Playscript.Notation

def wordsOf : Reader (List String) := listOf textOf

def wordClassOf : Reader WordClass := fun levels node => do
  let group ← groupOf "WordClass" ["positive", "neutral", "negative"] levels node
  let positive ← group.fieldOr "positive" [] wordsOf
  let neutral ← group.fieldOr "neutral" [] wordsOf
  let negative ← group.fieldOr "negative" [] wordsOf
  return ⟨positive, neutral, negative⟩

def comparativesOf : Reader Comparatives := fun levels node => do
  let group ← groupOf "Comparatives" ["positive", "negative"] levels node
  let positive ← group.field "positive" wordsOf
  let negative ← group.field "negative" wordsOf
  return ⟨positive, negative⟩

def pronounFormsOf : Reader PronounForms := fun levels node => do
  let group ← groupOf "PronounForms" ["subject", "object", "reflexive", "verb"] levels node
  let subject ← group.field "subject" textOf
  let object ← group.field "object" textOf
  let reflexive ← group.field "reflexive" textOf
  let verb ← group.field "verb" textOf
  return ⟨subject, object, reflexive, verb⟩

def pronounsOf : Reader Pronouns := fun levels node => do
  let group ← groupOf "Pronouns" ["first_person", "second_person"] levels node
  let firstPerson ← group.field "first_person" (listOf pronounFormsOf)
  let secondPerson ← group.field "second_person" (listOf pronounFormsOf)
  return ⟨firstPerson, secondPerson⟩

def lexiconOf : Reader Lexicon := fun levels node => do
  let group ← groupOf "Lexicon" ["nouns", "adjectives", "comparatives", "pronouns", "numerals", "cast"] levels node
  let nouns ← group.field "nouns" wordClassOf
  let adjectives ← group.field "adjectives" wordClassOf
  let comparatives ← group.field "comparatives" comparativesOf
  let pronouns ← group.field "pronouns" pronounsOf
  let numerals ← group.field "numerals" wordsOf
  let cast ← group.field "cast" wordsOf
  return ⟨nouns, adjectives, comparatives, pronouns, numerals, cast⟩

/-- the lexicon that a text holds, whether it is valid or not -/
def readLexicon (text : String) : Option Lexicon := do
  let (_, node) ← parse? text
  lexiconOf nestingLimit node

end Playscript.Notation
