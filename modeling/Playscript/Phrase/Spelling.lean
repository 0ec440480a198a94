/-
Spelling values as noun phrases. A noun with k adjectives is worth plus or minus 2^k, so an integer is spelled as the
sum of the powers of two in its binary expansion, the highest first. Doubling has a phrase of its own, and a pronoun
that refers to the subject of the clause is reflexive.
-/
import Playscript.Phrase
import Playscript.Phrase.Error
import Playscript.Vocabulary

namespace Playscript.Phrase

/-- the exponents of the powers of two that make up a number below 2^64, highest first -/
def setBits (m : Nat) : List Nat := (List.range 64).reverse.filter m.testBit

variable (stock : Stock) (n : Int64)

/-- as many adjectives as asked for, of the polarity of `n` -/
def spellAdjectives : Nat → Choosing PhraseError (List String)
  | 0 => return []
  | count + 1 => do
    let words := stock.adjectivesFor (if n < 0 then .negative else .positive)
    let adjective ← chooseOr (.unrepresentable n .adjective) words
    let rest ← spellAdjectives count
    return adjective :: rest

/-- a noun behind `exponent` adjectives, worth 2^exponent with the sign of `n` -/
def spellPower (exponent : Nat) : Choosing PhraseError NounPhrase := do
  let noun ← chooseOr (.unrepresentable n .noun) (stock.nounsFor (n < 0))
  let adjectives ← spellAdjectives stock n exponent
  return .noun adjectives noun

/-- the sum of powers of two with the sign of `n` -/
def spellBits : List Nat → Choosing PhraseError NounPhrase
  | [] => return .nothing
  | [bit] => spellPower stock n bit
  | bit :: bits => do
    let lhs ← spellPower stock n bit
    let rhs ← spellBits bits
    return .binary .add lhs rhs

def spellInteger : Choosing PhraseError NounPhrase := spellBits stock n (setBits n.toInt.natAbs)

/-- the pronoun for a partner: reflexive for the subject of the clause, else in the object case -/
def pronounFor (lexicon : Lexicon) (subject : Option Role) (role : Role) : Except PhraseError String :=
  match lexicon.pronoun role with
  | none => .error (.missingPronoun role)
  | some forms => .ok (if subject = some role then forms.reflexive else forms.object)

/-- the phrase of a value in a clause with this subject -/
def spell (vocabulary : Vocabulary) (subject : Option Role) : Value → Choosing PhraseError NounPhrase
  | .constant n => spellInteger vocabulary.stock n
  | .binary op lhs rhs =>
    if op = .mul ∧ lhs = .constant 2 then do
      let operand ← spell vocabulary subject rhs
      return .twice operand
    else do
      let lhs ← spell vocabulary subject lhs
      let rhs ← spell vocabulary subject rhs
      return .binary op lhs rhs
  | .unary op operand => do
    let operand ← spell vocabulary subject operand
    return .unary op operand
  | .character id =>
    match vocabulary.cast.nameOf id with
    | some name => return .name name
    | none => throw (.unknownCharacter id)
  | .role role => do
    let word ← liftExcept (pronounFor vocabulary.lexicon subject role)
    return .pronoun word
where
  /-- a computation that chooses nothing -/
  liftExcept {α : Type} (x : Except PhraseError α) : Choosing PhraseError α := fun g => (x, g)

end Playscript.Phrase
