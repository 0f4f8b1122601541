import QuadFold.Document.Lexer

/-! From tokens to the tree of a document. -/
namespace QuadFold.Document

/-- A scalar as written. Only a plain one without a tag may stand for anything but a text. -/
structure Scalar where
  text : String
  plain : Bool := true
  tag : Option Tag := none
  deriving DecidableEq, Repr, Inhabited

/-- A reference names its anchor by number, so that a node may refer to one around it. -/
inductive Node
  | scalar (s : Scalar)
  | sequence (items : List Node)
  | mapping (entries : List (Node × Node))
  | reference (anchor : Nat)
  deriving Inhabited

namespace Node

def absent : Node := .scalar { text := "~" }

/-- The state of building nodes: what is left, the anchors by name, and the nodes anchored so far. -/
structure Build where
  tokens : List Token
  names : List (String × Nat) := []
  count : Nat := 0
  anchored : List (Nat × Node) := []

abbrev Builder := StateT Build Option

def peek : Builder Token := do return (← get).tokens.headD .streamEnd

def skip : Builder Unit := modify fun b => { b with tokens := b.tokens.tail }

def accept (t : Token) : Builder Bool := do
  if (← peek) = t then
    skip
    return true
  else return false

def expect (t : Token) : Builder Unit := do
  unless ← accept t do failure

def declare (name : String) : Builder Nat :=
  modifyGet fun b => (b.count, { b with count := b.count + 1, names := (name, b.count) :: b.names })

def anchor? : Builder (Option Nat) := do
  match ← peek with
  | .anchor name =>
    skip
    return some (← declare name)
  | _ => return none

def tag? : Builder (Option Tag) := do
  match ← peek with
  | .tag tag =>
    skip
    return some tag
  | _ => return none

/-- The anchor and the tag before a node, in either order. -/
def properties : Builder (Option Nat × Option Tag) := do
  match ← anchor? with
  | some anchor => return (some anchor, ← tag?)
  | none =>
    match ← tag? with
    | some tag => return (← anchor?, some tag)
    | none => return (none, none)

def record (anchor : Option Nat) (n : Node) : Builder Node := do
  if let some id := anchor then
    modify fun b => { b with anchored := (id, n) :: b.anchored }
  return n

/-- After a key or a value in a block: tokens before which the node is left out. -/
def endsBlockEntry : Token → Bool
  | .key | .value | .blockEnd => true
  | _ => false

def endsFlowItem : Token → Bool
  | .flowEntry | .flowSequenceEnd => true
  | _ => false

def endsFlowPair : Token → Bool
  | .flowEntry | .flowMappingEnd => true
  | _ => false

mutual

/-- A node with its properties. Blocks may start only where `block` holds, and a sequence that is
not indented only where `loose` does too. -/
def build (block loose : Bool) : Nat → Builder Node
  | 0 => failure
  | fuel + 1 => do
    if let .reference name := ← peek then
      skip
      let some (_, anchor) := (← get).names.find? (·.1 == name) | failure
      return .reference anchor
    let (anchor, tag) ← properties
    match ← peek with
    | .scalar plain text =>
      skip
      record anchor (.scalar { text, plain, tag })
    | .flowSequence =>
      skip
      record anchor (.sequence (← flowItems true fuel))
    | .flowMapping =>
      skip
      record anchor (.mapping (← flowPairs true fuel))
    | t =>
      if t = .blockEntry ∧ loose then record anchor (.sequence (← looseItems fuel))
      else if t = .blockSequence ∧ block then
        skip
        record anchor (.sequence (← blockItems fuel))
      else if t = .blockMapping ∧ block then
        skip
        record anchor (.mapping (← blockPairs fuel))
      else if anchor.isSome || tag.isSome then record anchor (.scalar { text := "", tag })
      else failure

def blockItems : Nat → Builder (List Node)
  | 0 => failure
  | fuel + 1 => do
    if ← accept .blockEnd then return []
    expect .blockEntry
    let t ← peek
    let item ←
      if t = .blockEntry ∨ t = .blockEnd then pure absent else build true false fuel
    return item :: (← blockItems fuel)

def looseItems : Nat → Builder (List Node)
  | 0 => failure
  | fuel + 1 => do
    unless ← accept .blockEntry do return []
    let t ← peek
    let item ←
      if t = .blockEntry ∨ endsBlockEntry t then pure absent else build true false fuel
    return item :: (← looseItems fuel)

def blockPairs : Nat → Builder (List (Node × Node))
  | 0 => failure
  | fuel + 1 => do
    if ← accept .blockEnd then return []
    let key ←
      if ← accept .key then
        if endsBlockEntry (← peek) then pure absent else build true true fuel
      else if (← peek) = .value then pure absent
      else failure
    let value ←
      if ← accept .value then
        if endsBlockEntry (← peek) then pure absent else build true true fuel
      else pure absent
    return (key, value) :: (← blockPairs fuel)

def flowItems (first : Bool) : Nat → Builder (List Node)
  | 0 => failure
  | fuel + 1 => do
    if ← accept .flowSequenceEnd then return []
    unless first do expect .flowEntry
    if ← accept .flowSequenceEnd then return []
    let item ← if ← accept .key then flowSingle fuel else build false false fuel
    return item :: (← flowItems false fuel)

/-- A mapping of one pair inside a sequence. What ends a key that is left out is passed. -/
def flowSingle : Nat → Builder Node
  | 0 => failure
  | fuel + 1 => do
    let t ← peek
    let key ←
      if t = .value ∨ endsFlowItem t then
        skip
        pure absent
      else build false false fuel
    let value ←
      if ← accept .value then
        if endsFlowItem (← peek) then pure absent else build false false fuel
      else pure absent
    return .mapping [(key, value)]

def flowPairs (first : Bool) : Nat → Builder (List (Node × Node))
  | 0 => failure
  | fuel + 1 => do
    if ← accept .flowMappingEnd then return []
    unless first do expect .flowEntry
    if ← accept .flowMappingEnd then return []
    if ← accept .key then
      let t ← peek
      let key ← if t = .value ∨ endsFlowPair t then pure absent else build false false fuel
      let value ← flowValue fuel
      return (key, value) :: (← flowPairs false fuel)
    else if (← peek) = .value then
      let value ← flowValue fuel
      return (absent, value) :: (← flowPairs false fuel)
    else
      let key ← build false false fuel
      return (key, absent) :: (← flowPairs false fuel)

def flowValue : Nat → Builder Node
  | 0 => failure
  | fuel + 1 => do
    if ← accept .value then
      if endsFlowPair (← peek) then pure absent else build false false fuel
    else pure absent

end

def skipDirectives : Nat → Builder Unit
  | 0 => failure
  | fuel + 1 => do if ← accept .directive then skipDirectives fuel

def skipDocumentEnds : Nat → Builder Unit
  | 0 => failure
  | fuel + 1 => do if ← accept .documentEnd then skipDocumentEnds fuel

def endsDocument : Token → Bool
  | .directive | .documentStart | .documentEnd | .streamEnd => true
  | _ => false

/-- A document. Only the first of a stream may lack its start. Anchors hold within one document. -/
def document (first : Bool) (fuel : Nat) : Builder Node := do
  modify fun b => { b with names := [] }
  let t ← peek
  if first ∧ t ≠ .directive ∧ t ≠ .documentStart then build true false fuel
  else
    skipDirectives fuel
    expect .documentStart
    if endsDocument (← peek) then pure absent else build true false fuel

def documents (first : Bool) : Nat → Builder (List Node)
  | 0 => failure
  | fuel + 1 => do
    unless first do skipDocumentEnds fuel
    if (← peek) = .streamEnd then return []
    let n ← document first fuel
    let _ ← accept .documentEnd
    return n :: (← documents false fuel)

end Node

structure Stream where
  documents : List Node
  anchored : List (Nat × Node)

/-- Reads a whole text; `none` if any part of it is not well formed. Every call that reads a node
or an item passes a token at the latest three calls further down. -/
def stream? (source : String) : Option Stream := do
  let tokens ← tokens? source.toList
  let (documents, b) ← (Node.documents true (4 * tokens.length + 8)).run { tokens }
  return ⟨documents, b.anchored⟩

end QuadFold.Document
