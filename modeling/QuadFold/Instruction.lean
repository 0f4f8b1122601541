import QuadFold.Literal
import QuadFold.Operator

/-! Instructions `result = left` and `result = left operator right`. -/
namespace QuadFold

/-- One instruction. The record itself allows any combination of fields; `WellShaped` says which
ones stand for an instruction. -/
structure Instruction where
  operator : Operator := .assign
  left : Operand
  right : Option Operand := none
  result : String
  deriving DecidableEq, Repr, Inhabited

namespace Instruction

inductive Defect
  | emptyResult
  | emptyLeft (result : String)
  | emptyRight (result : String)
  | missingRight (operator : Operator) (result : String)
  | extraRight (result : String)
  deriving DecidableEq, Repr

def Defect.message : Defect → String
  | emptyResult => "empty result name"
  | emptyLeft result => s!"empty first operand in definition of `{result}`"
  | emptyRight result => s!"empty second operand in definition of `{result}`"
  | missingRight operator result =>
    let symbol := operator.symbol
    s!"operator `{symbol}` in definition of `{result}` requires a second operand"
  | extraRight result => s!"plain assignment to `{result}` takes no second operand"

/-- The first defect of the fields, in the order result, left, right. -/
def defect? (i : Instruction) : Option Defect :=
  if i.result = "" then some .emptyResult
  else if i.left = "" then some (.emptyLeft i.result)
  else match i.right, i.operator.isBinary with
    | some right, true => if right = "" then some (.emptyRight i.result) else none
    | none, true => some (.missingRight i.operator i.result)
    | some _, false => some (.extraRight i.result)
    | none, false => none

/-- No name is empty, and the second operand is there exactly for a binary operator. -/
def WellShaped (i : Instruction) : Prop :=
  i.result ≠ "" ∧ i.left ≠ "" ∧ i.right ≠ some "" ∧ (i.right.isSome ↔ i.operator.isBinary)

instance (i : Instruction) : Decidable i.WellShaped :=
  inferInstanceAs (Decidable (_ ∧ _))

theorem defect?_eq_none_iff (i : Instruction) : i.defect? = none ↔ i.WellShaped := by
  obtain ⟨operator, left, right, result⟩ := i
  simp only [defect?, WellShaped]
  by_cases hr : result = ""
  · simp [hr]
  by_cases hl : left = ""
  · simp [hr, hl]
  cases operator.isBinary <;> cases right <;> simp [hr, hl]

/-- The same operator and result over other operands. Nothing is checked, and a plain assignment
drops the second one. -/
def withOperands (i : Instruction) (left : Operand) (right : Option Operand) : Instruction :=
  { i with left, right := if i.operator.isBinary then right else none }

def operands (i : Instruction) : List Operand := i.left :: i.right.toList

def text (i : Instruction) : String :=
  match i.right with
  | some right => i.result ++ " = " ++ i.left ++ " " ++ i.operator.symbol ++ " " ++ right
  | none => i.result ++ " = " ++ i.left

/-- The fields by name, as stored in records; an absent second operand has no entry. -/
def fields (i : Instruction) : List (String × String) :=
  [("op", i.operator.name), ("arg1", i.left)] ++ i.right.toList.map (("arg2", ·)) ++
    [("result", i.result)]

end Instruction

end QuadFold
