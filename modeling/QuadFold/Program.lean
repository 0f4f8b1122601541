import QuadFold.Error

/-! Programs and the supply of names for temporaries. -/
namespace QuadFold

abbrev Program := List Instruction

namespace Program

def listing (p : Program) : String :=
  String.ofList (p.flatMap fun i => i.text.toList ++ ['\n'])

def results (p : Program) : List String := p.map (·.result)

def assign (p : Program) (result : String) (operand : Operand) : Except Error Program := do
  return p ++ [← Instruction.assign result operand]

def compute (p : Program) (result : String) (operator : Operator) (left right : Operand) :
    Except Error Program := do
  return p ++ [← Instruction.compute result operator left right]

end Program

/-- A supply of the names `t1`, `t2`, …; those handed out are counted in 64 bits. -/
structure Temporaries where
  issued : UInt64 := 0
  deriving DecidableEq, Repr, Inhabited

namespace Temporaries

def name (n : Nat) : String := String.ofList ('t' :: Nat.toDigits 10 n)

def next (t : Temporaries) : String × Temporaries :=
  (name (t.issued + 1).toNat, ⟨t.issued + 1⟩)

end Temporaries

/-- Appends an instruction whose result is a fresh temporary. The name is used up also when the
instruction is refused. -/
def Program.computeTemporary (p : Program) (supply : Temporaries) (operator : Operator)
    (left right : Operand) : Except Error (String × Program) × Temporaries :=
  let (name, rest) := supply.next
  ((p.compute name operator left right).map (name, ·), rest)

end QuadFold
