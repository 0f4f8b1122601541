import QuadFold.Instruction

/-! Why a program is refused. -/
namespace QuadFold

inductive Error
  | malformedLiteral (text : String)
  | invalidInstruction (defect : Instruction.Defect)
  | unreadableLine (line : Nat) (code : String)
  deriving DecidableEq, Repr

namespace Error

def message : Error → String
  | malformedLiteral text => s!"Malformed literal: `{text}` is not a valid integer"
  | invalidInstruction defect => "Invalid instruction: " ++ defect.message
  | unreadableLine line code =>
    let number := String.ofList (Nat.toDigits 10 line)
    s!"Syntax error at line {number}: cannot parse `{code}`"

def description : Error → String
  | malformedLiteral _ => "Malformed integer literal"
  | invalidInstruction _ => "Invalid TAC instruction"
  | unreadableLine _ _ => "Syntax error in TAC listing"

end Error

namespace Instruction

def checked (i : Instruction) : Except Error Instruction :=
  match i.defect? with
  | some defect => .error (.invalidInstruction defect)
  | none => .ok i

def assign (result : String) (operand : Operand) : Except Error Instruction :=
  checked { left := operand, result }

def compute (result : String) (operator : Operator) (left right : Operand) :
    Except Error Instruction :=
  checked { operator, left, right := some right, result }

end Instruction

end QuadFold
