/-
Reading a noun phrase from the front of a sentence. The words tell where a phrase ends: operators announce their
operands, a noun closes its adjectives, and of two names that fit the longer is meant.
-/
import Playscript.Phrase.Meaning

namespace Playscript.Phrase

/-- words that may open a noun without changing its worth -/
def articles : List String := ["a", "an", "the", "my", "your", "thy", "his", "her", "their", "its", "our"]

def binaryOps : List BinaryOp := [.add, .sub, .mul, .div, .rem]

def unaryOps : List UnaryOp := [.square, .cube, .squareRoot, .factorial]

/-- the first operator whose opening comes next, and the words after that -/
def eatOpening {Op : Type} (opening : Op → String) (ops : List Op) (ws : Words) : Option (Op × Words) :=
  ops.findSome? fun op => (Words.eatPhrase (opening op) ws).map (op, ·)

/-- adjectives up to a noun, all in small letters; `bare` tells that only the article "the" stands before -/
def readNoun (lexicon : Lexicon) (bare : Bool) : Words → Except (Stopped PhraseError) ((List String × String) × Words)
  | [] => .error ⟨.mismatch (Words.mismatch [] "noun"), []⟩
  | word :: ws =>
    match lexicon.classify word with
    | some (.adjective _) => do
      let ((adjectives, noun), rest) ← readNoun lexicon false ws
      return ((Text.lowercase word :: adjectives, noun), rest)
    | some (.noun _) => .ok (([], Text.lowercase word), ws)
    | _ => .error ⟨if bare then .unknownOperator word else .unknownWord word, word :: ws⟩

/-- whether the article that a noun phrase opens with is "the", and the words after the article -/
def eatArticle (ws : Words) : Bool × Words :=
  match articles.find? fun article => (Words.eat article ws).isSome with
  | some article => (article == "the", ws.tail)
  | none => (false, ws)

/-- a pronoun as written, or a noun with its adjectives -/
def readPlain (lexicon : Lexicon) (ws : Words) : Except (Stopped PhraseError) (NounPhrase × Words) :=
  match ws.head?.filter fun word => (lexicon.personOf word).isSome with
  | some word => .ok (.pronoun word, ws.tail)
  | none => do
    let (bare, ws) := eatArticle ws
    let ((adjectives, noun), rest) ← readNoun lexicon bare ws
    return (.noun adjectives noun, rest)

/-- a phrase nested no deeper than `depth`; a sentence of that many words has none deeper -/
def readWithin (vocabulary : Vocabulary) : (depth : Nat) → Words → Except (Stopped PhraseError) (NounPhrase × Words)
  | 0, ws => .error ⟨.mismatch (ws.mismatch "noun"), ws⟩
  | depth + 1, ws =>
    match Words.eat "nothing" ws <|> Words.eat "zero" ws with
    | some rest => .ok (.nothing, rest)
    | none =>
    match Words.eat "twice" ws with
    | some rest => do
      let (operand, rest) ← readWithin vocabulary depth rest
      return (.twice operand, rest)
    | none =>
    match eatOpening BinaryOp.opening binaryOps ws with
    | some (op, rest) => do
      let (lhs, rest) ← readWithin vocabulary depth rest
      let rest ← Words.expect .mismatch "and" rest
      let (rhs, rest) ← readWithin vocabulary depth rest
      return (.binary op lhs rhs, rest)
    | none =>
    match eatOpening UnaryOp.opening unaryOps ws with
    | some (op, rest) => do
      let (operand, rest) ← readWithin vocabulary depth rest
      return (.unary op operand, rest)
    | none =>
    match Words.eatLongest vocabulary.cast.names ws with
    | some (name, rest) => .ok (.name name, rest)
    | none => readPlain vocabulary.lexicon ws

/-- one phrase and the words after it -/
def read (vocabulary : Vocabulary) (ws : Words) : Except (Stopped PhraseError) (NounPhrase × Words) :=
  readWithin vocabulary ws.length ws

/-- the value of one phrase and the words after it -/
def readValue (vocabulary : Vocabulary) (ws : Words) : Except (Stopped PhraseError) (Value × Words) := do
  let (phrase, rest) ← read vocabulary ws
  match meaning vocabulary phrase with
  | .ok value => return (value, rest)
  | .error cause => throw ⟨cause, rest⟩

end Playscript.Phrase
