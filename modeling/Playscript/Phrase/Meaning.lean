/-
What a noun phrase is worth, and the form in which a value comes back from its phrase.

A sum of two constants folds into one constant exactly when it is the first step of a binary expansion: a power of two
and a smaller remainder of the same sign. All other sums keep their structure.
-/
import Playscript.Arithmetic
import Playscript.Phrase
import Playscript.Phrase.Error
import Playscript.Vocabulary

namespace Playscript

def isPowerOfTwo (m : Nat) : Bool := 1 <<< m.log2 == m

/-- `a + b`, if that is how a binary expansion begins -/
def expansionSum (a b : Int64) : Option Int64 :=
  if a.toInt ≠ 0 ∧ b.toInt ≠ 0 ∧ a.toInt.sign = b.toInt.sign ∧ isPowerOfTwo a.toInt.natAbs = true ∧
      b.toInt.natAbs < a.toInt.natAbs then
    narrow (a.toInt + b.toInt)
  else none

/-- an operation on two values, folded if it is the sum of a binary expansion -/
def Value.combine (op : BinaryOp) (lhs rhs : Value) : Value :=
  match op, lhs, rhs with
  | .add, .constant a, .constant b =>
    match expansionSum a b with
    | some sum => .constant sum
    | none => .binary .add (.constant a) (.constant b)
  | op, lhs, rhs => .binary op lhs rhs

/-- the value as it comes back from its phrase -/
def Value.canonical : Value → Value
  | .binary op lhs rhs => Value.combine op lhs.canonical rhs.canonical
  | .unary op operand => .unary op operand.canonical
  | leaf => leaf

namespace Phrase

/-- the first adjective that is unknown or does not agree with the noun -/
def checkAdjectives (lexicon : Lexicon) (noun : String) (polarity : Polarity) :
    List String → Except PhraseError Unit
  | [] => .ok ()
  | adjective :: rest =>
    match lexicon.adjectivePolarity adjective with
    | none => .error (.unknownWord adjective)
    | some p =>
      if p.agreesWith polarity then checkAdjectives lexicon noun polarity rest
      else .error (.polarityMismatch adjective noun)

/-- the worth of a noun with adjectives -/
def nounWorth (lexicon : Lexicon) (adjectives : List String) (noun : String) : Except PhraseError Int64 :=
  match lexicon.nounPolarity noun with
  | none => .error (.unknownWord noun)
  | some polarity => do
    checkAdjectives lexicon noun polarity adjectives
    match narrow (polarity.sign.toInt * (1 <<< adjectives.length : Nat)) with
    | some worth => return worth
    | none => throw (.overflow adjectives.length)

/-- the value that a phrase stands for -/
def meaning (vocabulary : Vocabulary) : NounPhrase → Except PhraseError Value
  | .nothing => .ok (.constant 0)
  | .noun adjectives noun => do
    let worth ← nounWorth vocabulary.lexicon adjectives noun
    return .constant worth
  | .pronoun word =>
    match vocabulary.lexicon.personOf word with
    | some role => .ok (.role role)
    | none => .error (.unknownWord word)
  | .name name =>
    match vocabulary.cast.identOf name with
    | some id => .ok (.character id)
    | none => .error (.unknownName name)
  | .binary op lhs rhs => do
    let lhs ← meaning vocabulary lhs
    let rhs ← meaning vocabulary rhs
    return Value.combine op lhs rhs
  | .unary op operand => do
    let operand ← meaning vocabulary operand
    return .unary op operand
  | .twice operand => do
    let operand ← meaning vocabulary operand
    return .binary .mul (.constant 2) operand

end Phrase

end Playscript
