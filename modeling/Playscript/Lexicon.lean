/-
Vocabulary: nouns, adjectives, comparatives, pronouns, numerals, and the names that characters may bear.

`Lexicon.entries` lists the words that mean something on their own, in the order in which they are indexed. A word is
classified by the first entry with the same small letters; `Lexicon.validate` refuses a vocabulary in which a later
entry would be hidden by an earlier one, so that in a valid lexicon the tables and the classification agree.
-/
import Playscript.Value
import Playscript.Text.Case
import Playscript.Text.Fold

namespace Playscript

inductive Polarity where
  | positive
  | neutral
  | negative
  deriving DecidableEq, Repr

/-- the worth of a noun of this polarity -/
def Polarity.sign : Polarity → Int64
  | .positive => 1
  | .neutral => 1
  | .negative => -1

/-- whether an adjective of this polarity may qualify a noun of polarity `noun` -/
def Polarity.agreesWith (adjective noun : Polarity) : Bool :=
  adjective == .neutral || adjective.sign == noun.sign

/-- words of one part of speech by polarity -/
structure WordClass where
  positive : List String
  neutral : List String
  negative : List String
  deriving DecidableEq, Repr

def WordClass.words (table : WordClass) : Polarity → List String
  | .positive => table.positive
  | .neutral => table.neutral
  | .negative => table.negative

/-- comparative adjectives: positive ones ask for more, negative ones for less -/
structure Comparatives where
  positive : List String
  negative : List String
  deriving DecidableEq, Repr

/-- the forms of a personal pronoun, and the present of "to be" that goes with it -/
structure PronounForms where
  subject : String
  object : String
  reflexive : String
  verb : String
  deriving DecidableEq, Repr

/-- the first entry of each list is the one used when composing -/
structure Pronouns where
  firstPerson : List PronounForms
  secondPerson : List PronounForms
  deriving DecidableEq, Repr

structure Lexicon where
  nouns : WordClass
  adjectives : WordClass
  comparatives : Comparatives
  pronouns : Pronouns
  /-- numerals of acts and scenes, from one on -/
  numerals : List String
  /-- names for characters, in the order in which they are given out -/
  cast : List String
  deriving DecidableEq, Repr

/-- what a word means on its own -/
inductive WordKind where
  | noun (polarity : Polarity)
  | adjective (polarity : Polarity)
  | pronoun (role : Role)
  | comparative (polarity : Polarity)
  deriving DecidableEq, Repr

/-! ## Classification -/

/-- the words of a table with their polarities, positive ones first -/
def WordClass.entries (table : WordClass) : List (String × Polarity) :=
  table.positive.map (·, .positive) ++ table.neutral.map (·, .neutral) ++ table.negative.map (·, .negative)

def Comparatives.entries (table : Comparatives) : List (String × Polarity) :=
  table.positive.map (·, .positive) ++ table.negative.map (·, .negative)

/-- the pronouns with their roles, first person first -/
def Pronouns.entries (table : Pronouns) : List (Role × PronounForms) :=
  table.firstPerson.map (.speaker, ·) ++ table.secondPerson.map (.addressee, ·)

/-- the forms of a pronoun that can stand for a value -/
def PronounForms.cases (forms : PronounForms) : List String :=
  [forms.subject, forms.object, forms.reflexive]

namespace Lexicon

/-- every word with a meaning of its own, in index order -/
def entries (lexicon : Lexicon) : List (String × WordKind) :=
  lexicon.nouns.entries.map (fun (word, polarity) => (word, .noun polarity)) ++
  lexicon.adjectives.entries.map (fun (word, polarity) => (word, .adjective polarity)) ++
  lexicon.comparatives.entries.map (fun (word, polarity) => (word, .comparative polarity)) ++
  lexicon.pronouns.entries.flatMap fun (role, forms) => forms.cases.map (·, .pronoun role)

/-- what a word means, in whatever letter case -/
def classify (lexicon : Lexicon) (word : String) : Option WordKind :=
  let key := Text.lowercase word
  (lexicon.entries.find? fun entry => Text.lowercase entry.1 == key).map (·.2)

def nounPolarity (lexicon : Lexicon) (word : String) : Option Polarity :=
  match lexicon.classify word with
  | some (.noun polarity) => some polarity
  | _ => none

def adjectivePolarity (lexicon : Lexicon) (word : String) : Option Polarity :=
  match lexicon.classify word with
  | some (.adjective polarity) => some polarity
  | _ => none

/-- the partner that a pronoun refers to -/
def personOf (lexicon : Lexicon) (word : String) : Option Role :=
  match lexicon.classify word with
  | some (.pronoun role) => some role
  | _ => none

def comparativePolarity (lexicon : Lexicon) (word : String) : Option Polarity :=
  match lexicon.classify word with
  | some (.comparative polarity) => some polarity
  | _ => none

/-- the pronoun used for a partner when composing -/
def pronoun (lexicon : Lexicon) : Role → Option PronounForms
  | .speaker => lexicon.pronouns.firstPerson.head?
  | .addressee => lexicon.pronouns.secondPerson.head?

/-- the first pronoun with this subject form -/
def subjectPronoun (lexicon : Lexicon) (word : String) : Option (Role × PronounForms) :=
  lexicon.pronouns.entries.find? fun (_, forms) => Text.same forms.subject word

/-- the first pronoun with this verb -/
def verbPronoun (lexicon : Lexicon) (word : String) : Option (Role × PronounForms) :=
  lexicon.pronouns.entries.find? fun (_, forms) => Text.same forms.verb word

end Lexicon

/-! ## Validation -/

/-- the tables that a lexicon cannot do without -/
inductive Requirement where
  | worthyNouns
  | negativeNouns
  | adjectives
  | comparatives
  | pronouns
  | numerals
  | cast
  deriving DecidableEq, Repr

def Requirement.text : Requirement → String
  | .worthyNouns => "positive or neutral nouns"
  | .negativeNouns => "negative nouns"
  | .adjectives => "adjectives"
  | .comparatives => "comparatives"
  | .pronouns => "pronouns"
  | .numerals => "numerals"
  | .cast => "cast"

/-- what is wrong with a vocabulary -/
inductive Flaw where
  | missing (requirement : Requirement)
  /-- a word, in small letters, with two meanings or listed twice -/
  | duplicateWord (word : String)
  deriving DecidableEq, Repr

def Flaw.message : Flaw → String
  | .missing requirement => s!"lexicon has no {requirement.text}"
  | .duplicateWord word => s!"word '{word}' appears in more than one table"

/-- whether an entry may repeat an earlier one: one form may serve several cases of pronouns of one person -/
def WordKind.mayRepeat (kind earlier : WordKind) : Bool :=
  match earlier with
  | .pronoun _ => kind == earlier
  | _ => false

/-- the first word among `entries` that repeats one of `seen` or an earlier one without leave -/
def firstRepetition (seen : List (String × WordKind)) : List (String × WordKind) → Option String
  | [] => none
  | (word, kind) :: rest =>
    let key := Text.lowercase word
    match seen.lookup key with
    | some earlier => if kind.mayRepeat earlier then firstRepetition seen rest else some key
    | none => firstRepetition ((key, kind) :: seen) rest

namespace Lexicon

/-- whether a required table has words -/
def has (lexicon : Lexicon) : Requirement → Bool
  | .worthyNouns => !lexicon.nouns.positive.isEmpty || !lexicon.nouns.neutral.isEmpty
  | .negativeNouns => !lexicon.nouns.negative.isEmpty
  | .adjectives => !lexicon.adjectives.entries.isEmpty
  | .comparatives => !lexicon.comparatives.positive.isEmpty && !lexicon.comparatives.negative.isEmpty
  | .pronouns => !lexicon.pronouns.firstPerson.isEmpty && !lexicon.pronouns.secondPerson.isEmpty
  | .numerals => !lexicon.numerals.isEmpty
  | .cast => !lexicon.cast.isEmpty

/-- the requirements in the order in which they are checked -/
def requirements : List Requirement :=
  [.worthyNouns, .negativeNouns, .adjectives, .comparatives, .pronouns, .numerals, .cast]

/-- the first thing wrong with a lexicon: a missing table, else a word with two meanings -/
def flaw? (lexicon : Lexicon) : Option Flaw :=
  match requirements.find? fun requirement => !lexicon.has requirement with
  | some requirement => some (.missing requirement)
  | none => (firstRepetition [] lexicon.entries).map .duplicateWord

def validate (lexicon : Lexicon) : Except Flaw Unit :=
  match lexicon.flaw? with
  | some flaw => .error flaw
  | none => .ok ()

end Lexicon

end Playscript
