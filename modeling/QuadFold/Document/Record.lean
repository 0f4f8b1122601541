import QuadFold.Document.Decode
import QuadFold.Program
import QuadFold.Settings

/-! Programs and settings as records in documents. -/
namespace QuadFold.Document.Record

open Decode

def operators : Choice Operator :=
  ⟨"Operator", Operator.all.map (·.name), Operator.ofName?⟩

def literalPolicies : Choice Literal.Policy :=
  ⟨"LiteralPolicy", Literal.Policy.all.map (·.name), Literal.Policy.ofName?⟩

def malformedPolicies : Choice Malformed :=
  ⟨"MalformedLiteralPolicy", Malformed.all.map (·.key), Malformed.ofKey?⟩

/-- Collections nest at most this deep: the program, the record, and what an operand may hold. -/
def depthLimit : Nat := 128

structure Draft where
  operator : Option Operator := none
  left : Option Operand := none
  right : Option (Option Operand) := none
  result : Option String := none

def operatorSlot (anchors : Anchors) (parent : Path) : Slot Draft where
  name := "op"
  isSet d := d.operator.isSome
  read path n d := do return { d with operator := some (← choose operators anchors parent path n) }

def leftSlot (anchors : Anchors) (parent : Path) : Slot Draft where
  name := "arg1"
  isSet d := d.left.isSome
  read path n d := do
    return { d with left := some (← operand anchors (depthLimit - 2) parent path n) }

def rightSlot (anchors : Anchors) (parent : Path) : Slot Draft where
  name := "arg2"
  isSet d := d.right.isSome
  read path n d := do
    return { d with right := some (← operand? anchors (depthLimit - 2) parent path n) }

def resultSlot (anchors : Anchors) : Slot Draft where
  name := "result"
  isSet d := d.result.isSome
  read path n d := do return { d with result := some (← string anchors path n) }

def Draft.slots (anchors : Anchors) (parent : Path) : List (Slot Draft) :=
  [operatorSlot anchors parent, leftSlot anchors parent, rightSlot anchors parent,
   resultSlot anchors]

/-- The record as an instruction; the operator and the second operand may be missing. -/
def Draft.toInstruction (d : Draft) (left : Operand) (result : String) : Instruction :=
  { operator := d.operator.getD .assign, left, right := d.right.getD none, result }

def ofEntries (anchors : Anchors) (path : Path) (es : List (Node × Node)) : Decoded Instruction := do
  let d ← entries (Draft.slots anchors path) anchors path es {}
  match d.left, d.result with
  | some left, some result => return d.toInstruction left result
  | none, _ => fail path (.missingField "arg1")
  | some _, none => fail path (.missingField "result")

def ofItems (anchors : Anchors) (path : Path) (items : List Node) : Decoded Instruction := do
  let d ← positions path (Draft.slots anchors path) items.zipIdx {}
  match d.left, d.result with
  | some left, some result =>
    if items.length = 4 then return d.toInstruction left result
    else fail path (.invalidLength items.length (elements 4))
  | none, _ => fail path (.invalidLength 1 "struct RawInstruction with 4 elements")
  | some _, none => fail path (.invalidLength 3 "struct RawInstruction with 4 elements")

/-- An instruction from its record, by names or by position; its shape is checked. -/
def instruction (anchors : Anchors) (path : Path) (n : Node) : Decoded Instruction := do
  let i ← match anchors.resolve n with
    | .mapping es => ofEntries anchors path es
    | .sequence items => ofItems anchors path items
    | n => unexpected path n "struct RawInstruction"
  i.checked.mapError .instruction

def program (anchors : Anchors) (n : Node) : Decoded Program :=
  match anchors.resolve n with
  | .sequence items => items.zipIdx.mapM fun (item, i) => instruction anchors (.item .root i) item
  | n => unexpected .root n "a sequence"

structure SettingsDraft where
  literals : Option Literal.Policy := none
  malformed : Option Malformed := none
  debug : Option Bool := none

def SettingsDraft.slots (anchors : Anchors) : List (Slot SettingsDraft) :=
  [{ name := "literals"
     isSet := fun d => d.literals.isSome
     read := fun path n d => do
       return { d with literals := some (← choose literalPolicies anchors .root path n) } },
   { name := "malformed_literals"
     isSet := fun d => d.malformed.isSome
     read := fun path n d => do
       return { d with malformed := some (← choose malformedPolicies anchors .root path n) } },
   { name := "debug"
     isSet := fun d => d.debug.isSome
     read := fun path n d => do return { d with debug := some (← boolean anchors path n) } }]

def SettingsDraft.toSettings (d : SettingsDraft) : Settings :=
  { policies :=
      { literals := d.literals.getD .permissive, malformed := d.malformed.getD .reject }
    debug := d.debug.getD false }

/-- Settings by names or by position; what is missing has its default. -/
def settings (anchors : Anchors) (n : Node) : Decoded Settings :=
  match anchors.resolve n with
  | .mapping es => do
    return (← entries (SettingsDraft.slots anchors) anchors .root es {}).toSettings
  | .sequence items => do
    let d ← positions .root (SettingsDraft.slots anchors) items.zipIdx {}
    if items.length ≤ 3 then return d.toSettings
    else fail .root (.invalidLength items.length (elements 3))
  | n => unexpected .root n "struct Environment"

/-- The only document of a text. A fault in it comes before there being another one. -/
def ofText {α : Type} (decode : Anchors → Node → Decoded α) (source : String) : Decoded α :=
  match stream? source with
  | none => .error .malformed
  | some ⟨[], _⟩ => .error .empty
  | some ⟨n :: more, anchors⟩ => do
    let a ← decode anchors n
    if more.isEmpty then return a else .error .several

end QuadFold.Document.Record
