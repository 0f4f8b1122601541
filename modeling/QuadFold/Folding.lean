import QuadFold.Constants
import QuadFold.Program
import QuadFold.Settings

/-! Constant folding and propagation: one walk over the program, in which each instruction sees
only the constants established before it. Instructions are neither removed nor added. -/
namespace QuadFold

/-- A folded instruction, with its operands as written, and the value it got. -/
structure Folding where
  result : String
  operator : Operator
  left : Operand
  right : Option Operand
  value : Int64
  deriving DecidableEq, Repr

def Folding.ofInstruction (i : Instruction) (value : Int64) : Folding :=
  { result := i.result, operator := i.operator, left := i.left, right := i.right, value }

def Folding.text (f : Folding) : String :=
  "Folded " ++ f.left ++ " " ++ f.operator.symbol ++
    (match f.right with
     | some right => " " ++ right
     | none => "") ++
    " -> " ++ Literal.text f.value

/-- What is found out about an instruction once its known operands are written in. -/
inductive Verdict
  /-- Both operands are literals, and the operator gives a value. -/
  | folded (value : Int64)
  /-- The only operand is a literal. -/
  | settled (value : Int64)
  /-- Both operands are literals, and the operator gives nothing. -/
  | undefined
  /-- Some operand is no literal, or a literal without a value that may pass. -/
  | unsettled
  deriving DecidableEq, Repr

namespace Policies

/-- The value of a literal; `none` for one without a value that may pass. -/
def read (p : Policies) (literal : Operand) : Except Error (Option Int64) :=
  match Literal.value? literal, p.malformed with
  | some value, _ => .ok (some value)
  | none, .reject => .error (.malformedLiteral literal)
  | none, .passThrough => .ok none

def judge (p : Policies) (operator : Operator) (left : Operand) (right : Option Operand) :
    Except Error Verdict :=
  match right with
  | some right =>
    if p.literals.accepts left && p.literals.accepts right then do
      let x ← p.read left
      let y ← p.read right
      match x, y with
      | some x, some y =>
        match operator.evaluate x y with
        | some value => return .folded value
        | none => return .undefined
      | _, _ => return .unsettled
    else .ok .unsettled
  | none =>
    if p.literals.accepts left then do
      match ← p.read left with
      | some value => return .settled value
      | none => return .unsettled
    else .ok .unsettled

structure Step where
  instruction : Instruction
  known : Constants
  folding : Option Folding

def step (p : Policies) (known : Constants) (i : Instruction) : Except Error Step := do
  let left := known.resolve i.left
  let right := i.right.map known.resolve
  match ← p.judge i.operator left right with
  | .folded value =>
    let instruction ← Instruction.assign i.result (Literal.text value)
    return ⟨instruction, known.bind i.result value, some (.ofInstruction i value)⟩
  | .settled value => return ⟨i.withOperands left none, known.bind i.result value, none⟩
  | .undefined => return ⟨i, known.forget i.result, none⟩
  | .unsettled => return ⟨i.withOperands left right, known.forget i.result, none⟩

/-- The outcome of a run: the new program, the folds in order, and what is known at the end. -/
structure Folded where
  program : Program
  foldings : List Folding
  known : Constants

def foldFrom (p : Policies) (known : Constants) : Program → Except Error Folded
  | [] => .ok ⟨[], [], known⟩
  | i :: rest => do
    let s ← p.step known i
    let r ← p.foldFrom s.known rest
    return ⟨s.instruction :: r.program, s.folding.toList ++ r.foldings, r.known⟩

def fold (p : Policies) (program : Program) : Except Error Folded :=
  p.foldFrom .empty program

end Policies

end QuadFold
