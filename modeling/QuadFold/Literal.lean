import QuadFold.Text.Number

/-! Integer literals: which texts count as one, what they denote, how they are written. -/
namespace QuadFold

/-- An operand is a text: the name of a variable or an integer literal. -/
abbrev Operand := String

/-- Operands in the order of their code points, which is that of their UTF-8 bytes. -/
def Operand.sort (operands : List Operand) : List Operand := operands.mergeSort (· ≤ ·)

namespace Literal

/-- Digits and minus signs in any order, at least one. -/
def isLoose (text : String) : Bool :=
  !text.toList.isEmpty && text.toList.all fun c => c.isDigit || c == '-'

def afterMinus : List Char → List Char
  | '-' :: cs => cs
  | cs => cs

/-- Digits after at most one minus sign. -/
def isStrict (text : String) : Bool :=
  let digits := afterMinus text.toList
  !digits.isEmpty && digits.all Char.isDigit

/-- Which texts count as integer literals. -/
inductive Policy
  | permissive | strict
  deriving DecidableEq, Repr, Inhabited

def Policy.name : Policy → String
  | permissive => "permissive"
  | strict => "strict"

def Policy.all : List Policy := [permissive, strict]

def Policy.ofName? (name : String) : Option Policy :=
  all.find? (·.name = name)

def Policy.accepts : Policy → String → Bool
  | permissive => isLoose
  | strict => isStrict

def ofInt? (n : Int) : Option Int64 :=
  if Int64.minValue.toInt ≤ n ∧ n ≤ Int64.maxValue.toInt then some (Int64.ofInt n) else none

/-- The value of a text with at most one sign before its digits. -/
def value? (text : String) : Option Int64 :=
  (Text.integer? text.toList).bind ofInt?

def text (value : Int64) : Operand :=
  String.ofList (Text.ofInt value.toInt)

end Literal

end QuadFold
