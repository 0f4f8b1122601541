import QuadFold.Folding
import QuadFold.Storage

/-! Work on one program, step by step. A step that fails leaves the program as it was. -/
namespace QuadFold

structure Session where
  program : Program := []
  supplies : List (String × Temporaries) := []
  files : FileTree := {}

inductive Command
  | clear
  | push (i : Instruction)
  | assign (result : String) (operand : Operand)
  | compute (result : String) (operator : Operator) (left right : Operand)
  | temporary (supply : String) (operator : Operator) (left right : Operand)
  | freshName (supply : String)
  | issued (supply : String)
  | copySupply (source target : String)
  | get (index : Nat)
  | withOperands (index : Nat) (left : Operand) (right : Option Operand)
  | results
  | take (count : Nat)
  | reverse
  | parse (source : String)
  | fold (policies : Policies) (keep : Bool)
  | dump (path : String)
  | load (path : String)

inductive Reply
  | done
  | text (s : String)
  | count (n : Nat)
  | instruction (i : Option Instruction)
  | names (names : List String)
  | folded (outcome : Policies.Folded)
  | written (content : Option String)
  | loaded (same : Bool)

namespace Session

def supply (s : Session) (name : String) : Temporaries :=
  ((s.supplies.find? (·.1 == name)).map (·.2)).getD {}

def setSupply (s : Session) (name : String) (t : Temporaries) : Session :=
  { s with supplies := (name, t) :: s.supplies.filter (·.1 ≠ name) }

def replace (s : Session) : Except Error Program → Except Failure Reply × Session
  | .ok p => (.ok .done, { s with program := p })
  | .error e => (.error (.program e), s)

def run (s : Session) : Command → Except Failure Reply × Session
  | .clear => (.ok .done, { s with program := [] })
  | .push i => s.replace (i.checked.map fun i => s.program ++ [i])
  | .assign result operand => s.replace (s.program.assign result operand)
  | .compute result operator left right => s.replace (s.program.compute result operator left right)
  | .temporary name operator left right =>
    let (outcome, rest) := s.program.computeTemporary (s.supply name) operator left right
    let s := s.setSupply name rest
    match outcome with
    | .ok (temporary, p) => (.ok (.text temporary), { s with program := p })
    | .error e => (.error (.program e), s)
  | .freshName name =>
    let (temporary, rest) := (s.supply name).next
    (.ok (.text temporary), s.setSupply name rest)
  | .issued name => (.ok (.count (s.supply name).issued.toNat), s)
  | .copySupply source target => (.ok .done, s.setSupply target (s.supply source))
  | .get index => (.ok (.instruction s.program[index]?), s)
  | .withOperands index left right =>
    let derived := s.program[index]?.map (·.withOperands left right)
    (.ok (.instruction derived), { s with program := s.program ++ derived.toList })
  | .results => (.ok (.names s.program.results), s)
  | .take count => (.ok .done, { s with program := s.program.take count })
  | .reverse => (.ok .done, { s with program := s.program.reverse })
  | .parse source => s.replace (Listing.parse source)
  | .fold policies keep =>
    match policies.fold s.program with
    | .ok outcome =>
      (.ok (.folded outcome), if keep then s else { s with program := outcome.program })
    | .error e => (.error (.program e), s)
  | .dump path =>
    match s.files.dump path s.program with
    | .ok files => (.ok (.written (files.text? path)), { s with files })
    | .error e => (.error e, s)
  | .load path =>
    match s.files.loadProgram path with
    | .ok p => (.ok (.loaded (p == s.program)), { s with program := p })
    | .error e => (.error e, s)

end Session

end QuadFold
