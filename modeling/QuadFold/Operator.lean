/-! The operators of three-address code. -/
namespace QuadFold

/-- `assign` copies its only operand; the others combine two. -/
inductive Operator
  | assign | add | sub | mul | div
  deriving DecidableEq, Repr, Inhabited

namespace Operator

def symbol : Operator → String
  | assign => "="
  | add => "+"
  | sub => "-"
  | mul => "*"
  | div => "/"

def name : Operator → String
  | assign => "none"
  | add => "add"
  | sub => "sub"
  | mul => "mul"
  | div => "div"

def all : List Operator := [assign, add, sub, mul, div]

def ofName? (name : String) : Option Operator :=
  all.find? (·.name = name)

def ofSymbol? : Char → Option Operator
  | '+' => some add
  | '-' => some sub
  | '*' => some mul
  | '/' => some div
  | _ => none

def isAssign : Operator → Bool
  | assign => true
  | _ => false

def isBinary : Operator → Bool
  | assign => false
  | _ => true

/-- Arithmetic wraps around at 64 bits and division goes toward zero; there is no value for a
division by zero, nor for `assign`. -/
def evaluate (op : Operator) (x y : Int64) : Option Int64 :=
  match op with
  | assign => none
  | add => some (x + y)
  | sub => some (x - y)
  | mul => some (x * y)
  | div => if y = 0 then none else some (x / y)

end Operator

end QuadFold
