/-
Actions as text, for reports: a constructor with its arguments between parentheses, or with named fields between
braces.
-/
import Playscript.Script

namespace Playscript

def BinaryOp.label : BinaryOp → String
  | .add => "Add"
  | .sub => "Sub"
  | .mul => "Mul"
  | .div => "Div"
  | .rem => "Rem"

def UnaryOp.label : UnaryOp → String
  | .square => "Square"
  | .cube => "Cube"
  | .squareRoot => "SquareRoot"
  | .factorial => "Factorial"

def Relation.label : Relation → String
  | .equal => "Equal"
  | .greater => "Greater"
  | .less => "Less"

def Channel.label : Channel → String
  | .character => "Character"
  | .integer => "Integer"

/-- a constructor with named fields -/
def fieldsText (label : String) (fields : List (String × String)) : String :=
  label ++ " \x7b " ++ ", ".intercalate (fields.map fun (name, text) => name ++ ": " ++ text) ++ " \x7d"

/-- a constructor with one argument -/
def argumentText (label argument : String) : String := label ++ "(" ++ argument ++ ")"

def Operand.text : Operand → String
  | .constant n => argumentText "Constant" (toString n.toInt)
  | .binary op lhs rhs => fieldsText "Binary" [("op", op.label), ("lhs", lhs.text), ("rhs", rhs.text)]
  | .unary op operand => fieldsText "Unary" [("op", op.label), ("operand", operand.text)]
  | .character i => argumentText "Character" (toString i)
  | .role partner => argumentText "Role" partner.name

def numbersText (numbers : List Nat) : String := "[" ++ ", ".intercalate (numbers.map toString) ++ "]"

def Action.text : Action → String
  | .enter characters => argumentText "Enter" (numbersText characters)
  | .exit c => argumentText "Exit" (toString c)
  | .exeunt characters => argumentText "Exeunt" (numbersText characters)
  | .assign value => argumentText "Assign" value.text
  | .compare relation negated lhs rhs =>
    fieldsText "Compare"
      [("relation", relation.label), ("negated", toString negated), ("lhs", lhs.text), ("rhs", rhs.text)]
  | .jump act scene => fieldsText "Jump" [("act", toString act), ("scene", toString scene)]
  | .input channel => argumentText "Input" channel.label
  | .output channel => argumentText "Output" channel.label
  | .remember value => argumentText "Remember" value.text
  | .recall => "Recall"

end Playscript
