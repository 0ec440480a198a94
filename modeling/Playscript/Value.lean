/-
Values of the structured form: constants, arithmetic, characters by identifier, and the two partners of a
conversation.
-/

namespace Playscript

/-- identifier of a character in structured form, such as `romeo` or `lady_macbeth` -/
structure Ident where
  text : String
  deriving DecidableEq, Repr, Inhabited

/-- one of the two conversation partners -/
inductive Role where
  | speaker
  | addressee
  deriving DecidableEq, Repr

def Role.name : Role → String
  | .speaker => "Speaker"
  | .addressee => "Addressee"

inductive BinaryOp where
  | add
  | sub
  | mul
  | div
  | rem
  deriving DecidableEq, Repr

inductive UnaryOp where
  | square
  | cube
  | squareRoot
  | factorial
  deriving DecidableEq, Repr

/-- a value in structured form -/
inductive Value where
  | constant (n : Int64)
  | binary (op : BinaryOp) (lhs rhs : Value)
  | unary (op : UnaryOp) (operand : Value)
  /-- the current value of a named character -/
  | character (id : Ident)
  | role (role : Role)
  deriving DecidableEq, Repr

/-- the value with `speaker` called by role instead of by identifier -/
def Value.withSpeakerAsRole (speaker : Ident) : Value → Value
  | .constant n => .constant n
  | .binary op lhs rhs => .binary op (lhs.withSpeakerAsRole speaker) (rhs.withSpeakerAsRole speaker)
  | .unary op operand => .unary op (operand.withSpeakerAsRole speaker)
  | .character id => if id = speaker then .role .speaker else .character id
  | .role r => .role r

/-- identifiers that a value mentions, left to right, repetitions kept -/
def Value.mentions : Value → List Ident
  | .constant _ => []
  | .binary _ lhs rhs => lhs.mentions ++ rhs.mentions
  | .unary _ operand => operand.mentions
  | .character id => [id]
  | .role _ => []

end Playscript
