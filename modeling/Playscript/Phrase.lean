/-
Values in prose. A noun is worth plus or minus one, each adjective in front of it doubles it, and operator phrases
join one or two smaller phrases. `NounPhrase.text` is the phrase as it is written, with the article that fits the sound
of the word after it.
-/
import Playscript.Value
import Playscript.Text.Case

namespace Playscript

/-- a value in prose form -/
inductive NounPhrase where
  /-- the phrase for zero -/
  | nothing
  | noun (adjectives : List String) (noun : String)
  /-- a personal pronoun as written -/
  | pronoun (word : String)
  /-- a character's proper name -/
  | name (name : String)
  | binary (op : BinaryOp) (lhs rhs : NounPhrase)
  | unary (op : UnaryOp) (operand : NounPhrase)
  /-- the double of a phrase -/
  | twice (operand : NounPhrase)
  deriving DecidableEq, Repr

/-- the words that introduce an operator, up to its first operand -/
def BinaryOp.opening : BinaryOp → String
  | .add => "the sum of"
  | .sub => "the difference between"
  | .mul => "the product of"
  | .div => "the quotient between"
  | .rem => "the remainder of the quotient between"

def UnaryOp.opening : UnaryOp → String
  | .square => "the square of"
  | .cube => "the cube of"
  | .squareRoot => "the square root of"
  | .factorial => "the factorial of"

/-- beginnings of words whose first letter is silent -/
def silentBeginnings : List String := ["honest", "honor", "honour", "hour"]

/-- beginnings of words that open with a vowel and sound like a consonant -/
def consonantBeginnings : List String := ["one", "uni", "use", "usu", "eu"]

def vowels : List Char := ['a', 'e', 'i', 'o', 'u']

/-- the indefinite article by sound, as far as the spelling tells it -/
def articleFor (word : String) : String :=
  let letters := (Text.lowercase word).toList
  if silentBeginnings.any fun start => start.toList.isPrefixOf letters then "an"
  else if consonantBeginnings.any fun start => start.toList.isPrefixOf letters then "a"
  else match letters with
    | c :: _ => if c ∈ vowels then "an" else "a"
    | [] => "a"

namespace NounPhrase

/-- the phrase as written -/
def text : NounPhrase → String
  | .nothing => "nothing"
  | .noun adjectives word =>
    " ".intercalate (articleFor (adjectives.headD word) :: adjectives ++ [word])
  | .pronoun word => word
  | .name word => word
  | .binary op lhs rhs => op.opening ++ " " ++ lhs.text ++ " and " ++ rhs.text
  | .unary op operand => op.opening ++ " " ++ operand.text
  | .twice operand => "twice " ++ operand.text

end NounPhrase

end Playscript
