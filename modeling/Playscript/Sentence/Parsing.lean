/-
Parsing a sentence into a statement. The sentence of a composer is accepted back, and so are the older forms of the
pronouns, "thy" for "your", "return to" for "proceed to", any mark at the end, and any words after "Recall".
-/
import Playscript.Phrase.Reading
import Playscript.Sentence

namespace Playscript.Sentence

/-- the answer of a reader, or the cause of its failure as a fault of the sentence -/
def reading {ε α : Type} (wrap : ε → SentenceError) (answer : Except (Stopped ε) α) : Except SentenceError α :=
  match answer with
  | .ok a => .ok a
  | .error stopped => .error (wrap stopped.cause)

def expect (word : String) (ws : Words) : Except SentenceError Words :=
  reading id (Words.expect .mismatch word ws)

def expectEnd (ws : Words) : Except SentenceError Unit :=
  reading id (Words.expectEnd .mismatch ws)

def readValue (vocabulary : Vocabulary) (ws : Words) : Except SentenceError (Value × Words) :=
  reading .phrase (Phrase.readValue vocabulary ws)

/-- a value, and nothing after it -/
def readLastValue (vocabulary : Vocabulary) (ws : Words) : Except SentenceError Value := do
  let (value, ws) ← readValue vocabulary ws
  expectEnd ws
  return value

/-- the words after "your" or "thy" -/
def readPossessive (ws : Words) : Except SentenceError Words :=
  match Words.eat "your" ws <|> Words.eat "thy" ws with
  | some rest => .ok rest
  | none => .error (.mismatch (ws.mismatch "your"))

/-- one of the four fixed sentences of input and output, if the words open as one -/
def readTransfer? (ws : Words) : Option (Except SentenceError (Statement × Words)) :=
  match Words.eat "open" ws with
  | some rest => some do
    let rest ← readPossessive rest
    match Words.eat "mind" rest with
    | some rest => return (.input .character, rest)
    | none =>
      let rest ← expect "heart" rest
      return (.output .integer, rest)
  | none =>
  match Words.eatPhrase "listen to" ws with
  | some rest => some do
    let rest ← readPossessive rest
    let rest ← expect "heart" rest
    return (.input .integer, rest)
  | none =>
  match Words.eat "speak" ws with
  | some rest => some do
    let rest ← readPossessive rest
    let rest ← expect "mind" rest
    return (.output .character, rest)
  | none => none

def readAdjective (vocabulary : Vocabulary) (ws : Words) : Except SentenceError Words :=
  match ws with
  | word :: rest =>
    if (vocabulary.lexicon.adjectivePolarity word).isSome then .ok rest
    else .error (.mismatch (ws.mismatch "adjective"))
  | [] => .error (.mismatch (ws.mismatch "adjective"))

/-- the words after "as good as", of which the first "as" has been read -/
def readLikeness (vocabulary : Vocabulary) (ws : Words) : Except SentenceError Words := do
  let ws ← readAdjective vocabulary ws
  expect "as" ws

/-- the rest of an assignment after its subject and verb -/
def readAssignment (vocabulary : Vocabulary) (ws : Words) : Except SentenceError Statement := do
  let ws ← match Words.eat "as" ws with
    | some rest => readLikeness vocabulary rest
    | none => .ok ws
  let value ← readLastValue vocabulary ws
  return .assign value

/-- the relation that a comparative of this polarity asks for -/
def relationOf : Polarity → Relation
  | .negative => .less
  | .positive => .greater
  | .neutral => .greater

def readComparative (vocabulary : Vocabulary) (ws : Words) : Except SentenceError (Relation × Words) :=
  match ws.head?.bind vocabulary.lexicon.comparativePolarity with
  | some polarity => do
    let rest ← expect "than" ws.tail
    return (relationOf polarity, rest)
  | none => .error (.mismatch (ws.mismatch "comparative"))

/-- the relation of a question, and the words after it -/
def readRelation (vocabulary : Vocabulary) (ws : Words) : Except SentenceError (Relation × Words) :=
  match Words.eat "as" ws with
  | some rest => do
    let rest ← readLikeness vocabulary rest
    return (.equal, rest)
  | none => readComparative vocabulary ws

/-- the rest of a question after its left side -/
def readQuestion (vocabulary : Vocabulary) (lhs : Value) (ws : Words) : Except SentenceError Statement := do
  let negation := Words.eat "not" ws
  let (relation, ws) ← readRelation vocabulary (negation.getD ws)
  let rhs ← readLastValue vocabulary ws
  return .compare ⟨relation, negation.isSome, lhs, rhs⟩

/-- whether the words open with a second-person subject and its verb -/
def opensAssignment (vocabulary : Vocabulary) (ws : Words) : Bool :=
  match vocabulary.lexicon.subjectPronoun (ws.headD "") with
  | some (.addressee, forms) => Text.same forms.verb (ws.getD 1 "")
  | _ => false

/-- the partner about whom the words ask, if they open with a verb and its subject -/
def opensQuestion (vocabulary : Vocabulary) (ws : Words) : Option Role :=
  match vocabulary.lexicon.verbPronoun (ws.headD "") with
  | some (role, forms) => if Text.same forms.subject (ws.getD 1 "") then some role else none
  | none => none

/-- a sentence that is neither a jump nor about input or output -/
def parseClause (vocabulary : Vocabulary) (sentence : String) (ws : Words) : Except SentenceError Statement :=
  match Words.eat "recall" ws with
  | some _ => .ok .recall
  | none =>
  match Words.eat "remember" ws with
  | some rest => do
    let value ← readLastValue vocabulary rest
    return .remember value
  | none =>
  if opensAssignment vocabulary ws then readAssignment vocabulary (ws.drop 2)
  else match opensQuestion vocabulary ws with
  | some role => readQuestion vocabulary (.role role) (ws.drop 2)
  | none =>
  match Words.eat "is" ws with
  | some rest => do
    let (lhs, rest) ← readValue vocabulary rest
    readQuestion vocabulary lhs rest
  | none => .error (.unrecognized (Text.trim sentence))

/-- the statement of a sentence without the words that make it conditional -/
def parseSimple (vocabulary : Vocabulary) (sentence : String) (ws : Words) : Except SentenceError Statement := do
  match ← reading .jump (Jump.read vocabulary.lexicon ws) with
  | (some target, rest) =>
    expectEnd rest
    return .jump target
  | (none, ws) =>
    match readTransfer? ws with
    | some answer =>
      let (statement, rest) ← answer
      expectEnd rest
      return statement
    | none => parseClause vocabulary sentence ws

def parse (vocabulary : Vocabulary) (sentence : String) : Except SentenceError Statement :=
  match Jump.readMarker (Words.ofText sentence) with
  | (some polarity, ws) => do
    let body ← parseSimple vocabulary sentence ws
    return .conditional polarity body
  | (none, ws) => parseSimple vocabulary sentence ws

end Playscript.Sentence
