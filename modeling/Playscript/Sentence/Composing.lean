/-
Composing the sentence that a character says for a statement.

A plain assignment names its value after the verb; any other value goes into a comparison with a pleasant adjective,
so that a pronoun or an operator can follow. Words are chosen in the order in which the sentence needs them, except that
the adjective of a comparison is chosen before the value of an assignment.
-/
import Playscript.Phrase.Spelling
import Playscript.Sentence

namespace Playscript.Sentence

/-- the phrase of a value in a clause with this subject -/
def spelled (vocabulary : Vocabulary) (subject : Option Role) (value : Value) :
    Choosing SentenceError String := do
  let phrase ← ExceptT.adapt .phrase (Phrase.spell vocabulary subject value)
  return phrase.text

/-- the subject form of the pronoun for a partner, and its verb -/
def subjectAndVerb (vocabulary : Vocabulary) (role : Role) : Choosing SentenceError (String × String) :=
  match vocabulary.lexicon.pronoun role with
  | some forms => return (forms.subject, forms.verb)
  | none => throw (.phrase (.missingPronoun role))

/-- an adjective for "as good as" -/
def pleasantAdjective (vocabulary : Vocabulary) : Choosing SentenceError String :=
  chooseOr (.noWord .adjective) (vocabulary.stock.adjectivesFor .positive)

/-- whether an assignment of this value can do without a comparison -/
def isPlain : Value → Bool
  | .constant n => n != 0
  | _ => false

def composeAssignment (vocabulary : Vocabulary) (value : Value) : Choosing SentenceError String := do
  let (subject, verb) ← subjectAndVerb vocabulary .addressee
  let opening := Text.capitalizeFirst subject ++ " " ++ verb
  if isPlain value then
    let phrase ← spelled vocabulary (some .addressee) value
    return s!"{opening} {phrase}."
  else
    let adjective ← pleasantAdjective vocabulary
    let phrase ← spelled vocabulary (some .addressee) value
    return s!"{opening} as {adjective} as {phrase}."

/-- the opening of a question up to its relation, and the subject of the clause -/
def composeSubject (vocabulary : Vocabulary) : Value → Choosing SentenceError (String × Option Role)
  | .role role => do
    let (subject, verb) ← subjectAndVerb vocabulary role
    return (Text.capitalizeFirst verb ++ " " ++ subject, some role)
  | value => do
    let phrase ← spelled vocabulary none value
    return ("Is " ++ phrase, none)

/-- the words between the two sides of a question -/
def composeRelation (vocabulary : Vocabulary) : Relation → Choosing SentenceError String
  | .equal => do
    let adjective ← pleasantAdjective vocabulary
    return s!"as {adjective} as"
  | .greater => do
    let comparative ← chooseOr (.noWord .comparative) (vocabulary.stock.comparativesFor .positive)
    return comparative ++ " than"
  | .less => do
    let comparative ← chooseOr (.noWord .comparative) (vocabulary.stock.comparativesFor .negative)
    return comparative ++ " than"

def composeQuestion (vocabulary : Vocabulary) (speaker : Ident) (c : Comparison) :
    Choosing SentenceError String := do
  let (opening, subject) ← composeSubject vocabulary (c.lhs.withSpeakerAsRole speaker)
  let negation := if c.negated then " not" else ""
  let relation ← composeRelation vocabulary c.relation
  let phrase ← spelled vocabulary subject (c.rhs.withSpeakerAsRole speaker)
  return s!"{opening}{negation} {relation} {phrase}?"

/-- the sentence of a statement that is no conditional -/
def composeSimple (vocabulary : Vocabulary) (speaker : Ident) : Statement → Choosing SentenceError String
  | .assign value => composeAssignment vocabulary (value.withSpeakerAsRole speaker)
  | .compare c => composeQuestion vocabulary speaker c
  | .conditional .. => throw .nestedConditional
  | .jump target =>
    match Jump.compose vocabulary.lexicon target with
    | .ok sentence => return sentence
    | .error cause => throw (.jump cause)
  | .input .character => return "Open your mind!"
  | .input .integer => return "Listen to your heart!"
  | .output .character => return "Speak your mind!"
  | .output .integer => return "Open your heart!"
  | .remember value => do
    let phrase ← spelled vocabulary (some .addressee) (value.withSpeakerAsRole speaker)
    return s!"Remember {phrase}."
  | .recall => return "Recall your past."

/-- the sentence that `speaker` says for a statement -/
def compose (vocabulary : Vocabulary) (speaker : Ident) : Statement → Choosing SentenceError String
  | .conditional polarity body => do
    let sentence ← composeSimple vocabulary speaker body
    return Jump.marker polarity ++ " " ++ Text.lowercaseFirst sentence
  | simple => composeSimple vocabulary speaker simple

end Playscript.Sentence
