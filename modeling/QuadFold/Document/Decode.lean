import QuadFold.Document.Path

/-! Reading values of an expected kind from the nodes of a document. -/
namespace QuadFold.Document

abbrev Decoded := Except Fault

abbrev Anchors := List (Nat × Node)

namespace Anchors

/-- The node itself, or the one it refers to, which is never a reference. -/
def resolve (anchors : Anchors) : Node → Node
  | .reference anchor => ((anchors.find? (·.1 == anchor)).map (·.2)).getD .absent
  | n => n

end Anchors

structure Choice (α : Type) where
  name : String
  variants : List String
  ofName? : String → Option α

/-- A field of a record, read into a draft of it. -/
structure Slot (σ : Type) where
  name : String
  isSet : σ → Bool
  read : Path → Node → σ → Decoded σ

namespace Decode

def fail {α : Type} (path : Path) (problem : Problem) : Decoded α := .error (.data path problem)

def found (path : Path) : Node → Decoded Found
  | .scalar s =>
    match s.value with
    | .ok f => .ok f
    | .error problem => fail path problem
  | .sequence _ => .ok .sequence
  | .mapping _ => .ok .mapping
  | .reference _ => .ok .unit

def unexpected {α : Type} (path : Path) (n : Node) (expected : String) : Decoded α := do
  fail path (.unexpected (← found path n) expected)

def entryPath (path : Path) : Node → Path
  | .scalar s => .entry path s.text
  | _ => .unnamed path

/-- Looks for faults in a value of any kind, down to the given depth. -/
def inspect (anchors : Anchors) : Nat → Path → Node → Decoded Unit
  | 0, path, n =>
    match anchors.resolve n with
    | .scalar s => do checkWord path (← found path (.scalar s))
    | _ => .error .tooDeep
  | depth + 1, path, n =>
    match anchors.resolve n with
    | .sequence items =>
      items.zipIdx.forM fun (item, i) => inspect anchors depth (.item path i) item
    | .mapping entries =>
      entries.forM fun (key, value) => do
        inspect anchors depth path key
        inspect anchors depth (entryPath path key) value
    | n => do checkWord path (← found path n)
where
  /-- Integers beyond 64 bits are no values. -/
  checkWord (path : Path) : Found → Decoded Unit
    | .integer n => if Found.isWord n then .ok () else fail path (.unexpected (.integer n) "any value")
    | _ => .ok ()

/-- A text, or an integer of 64 bits with a sign, which becomes its decimal text. Any other value is
a fault of the record around it, once it has been read. -/
def operand (anchors : Anchors) (depth : Nat) (parent path : Path) (n : Node) : Decoded Operand := do
  inspect anchors depth path n
  match anchors.resolve n with
  | .scalar s =>
    match ← found path (.scalar s) with
    | .text text => .ok text
    | .integer n =>
      match Literal.ofInt? n with
      | some value => .ok (Literal.text value)
      | none => fail parent .noOperand
    | _ => fail parent .noOperand
  | _ => fail parent .noOperand

def isNull (parent : Path) : Node → Decoded Bool
  | .scalar s =>
    let named := s.text == "~" || s.text == "null"
    if !s.plain then .ok false
    else match s.tag with
      | none => .ok named
      | some tag =>
        if tag.isStandard "null" then
          if named then .ok true else fail parent (.invalidValue s.text "null")
        else .ok false
  | _ => .ok false

def operand? (anchors : Anchors) (depth : Nat) (parent path : Path) (n : Node) :
    Decoded (Option Operand) := do
  if ← isNull parent (anchors.resolve n) then return none
  else return some (← operand anchors depth parent path n)

/-- Any scalar, taken as its text. -/
def string (anchors : Anchors) (path : Path) (n : Node) : Decoded String :=
  match anchors.resolve n with
  | .scalar s => .ok s.text
  | n => unexpected path n "a string"

def boolean (anchors : Anchors) (path : Path) (n : Node) : Decoded Bool := do
  match ← found path (anchors.resolve n) with
  | .boolean b => return b
  | f => fail path (.unexpected f "a boolean")

def unit (anchors : Anchors) (path : Path) (n : Node) : Decoded Unit := do
  match ← found path (anchors.resolve n) with
  | .unit => return ()
  | f => fail path (.unexpected f "unit")

def variant {α : Type} (choice : Choice α) (path : Path) (name : String) : Decoded α :=
  match choice.ofName? name with
  | some a => .ok a
  | none => fail path (.unknownVariant name choice.variants)

/-- A scalar that names the variant, or a mapping with the variant as its only key and nothing as
its value. A local tag that names a variant asks for nothing as the value too. -/
def choose {α : Type} (choice : Choice α) (anchors : Anchors) (parent path : Path) (n : Node) :
    Decoded α :=
  match anchors.resolve n with
  | .scalar s =>
    match s.tag with
    | some tag =>
      if tag.handle == "!" && choice.variants.contains tag.suffix then
        fail (.entry path tag.suffix) (.unexpected (.text s.text) "unit")
      else variant choice path s.text
    | none => variant choice path s.text
  | .mapping ((.scalar s, value) :: more) => do
    let a ← variant choice parent s.text
    unit anchors (.entry path s.text) value
    if more.isEmpty then return a
    else fail parent (.invalidLength (more.length + 1) "map containing 1 entry")
  | .mapping ((key, _) :: _) =>
    unexpected path (anchors.resolve key) ("variant of enum " ++ Problem.inTicks choice.name)
  | n => unexpected path n "string or singleton map"

def key (anchors : Anchors) (path : Path) (n : Node) : Decoded String :=
  match anchors.resolve n with
  | .scalar s => .ok s.text
  | n => unexpected path n "field identifier"

/-- The entries in order; keys that name no field are passed over. -/
def entries {σ : Type} (fields : List (Slot σ)) (anchors : Anchors) (path : Path) :
    List (Node × Node) → σ → Decoded σ
  | [], draft => .ok draft
  | (k, value) :: rest, draft => do
    let name ← key anchors path k
    match fields.find? (·.name == name) with
    | none => entries fields anchors path rest draft
    | some field =>
      if field.isSet draft then fail path (.duplicateField name)
      else entries fields anchors path rest (← field.read (entryPath path k) value draft)

/-- The items one by one, one for each field, as far as there are items. -/
def positions {σ : Type} (path : Path) : List (Slot σ) → List (Node × Nat) → σ → Decoded σ
  | field :: fields, (item, i) :: rest, draft => do
    positions path fields rest (← field.read (.item path i) item draft)
  | _, _, draft => .ok draft

def elements (n : Nat) : String :=
  let count := String.ofList (Nat.toDigits 10 n)
  if n = 1 then "sequence of 1 element" else "sequence of " ++ count ++ " elements"

end Decode

end QuadFold.Document
