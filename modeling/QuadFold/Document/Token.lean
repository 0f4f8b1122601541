import QuadFold.Document.Cursor
import QuadFold.Text.Number

/-! The tokens of a document, and how tags, anchors and directives are read. -/
namespace QuadFold.Document

/-- A tag such as `!!int`, whose handle is `!!` and whose suffix is `int`. -/
structure Tag where
  handle : String
  suffix : String
  deriving DecidableEq, Repr, Inhabited

/-- The tag of the standard schema with this name. -/
def Tag.isStandard (t : Tag) (name : String) : Bool := t.handle == "!!" && t.suffix == name

inductive Token
  | directive
  | documentStart | documentEnd | streamEnd
  | blockSequence | blockMapping | blockEnd
  | flowSequence | flowSequenceEnd | flowMapping | flowMappingEnd
  | blockEntry | flowEntry | key | value
  | reference (name : String)
  | anchor (name : String)
  | tag (tag : Tag)
  | scalar (plain : Bool) (text : String)
  deriving DecidableEq, Repr, Inhabited

def anchorName? (c : Cursor) : Option (String × Cursor) :=
  let (name, c) := c.span isWordChar
  if name.isEmpty then none
  else if isGapOrEnd c.peek || "?:,]\x7d%@`".toList.contains c.peek then
    some (String.ofList name, c)
  else none

namespace Tag

def isUriChar (c : Char) : Bool :=
  isWordChar c || ";/?:@&=+$,.!~*'()[]%".toList.contains c

def octets? (octet : Nat) : Option Nat :=
  if octet < 0x80 then some 1
  else if 0xC0 ≤ octet ∧ octet < 0xE0 then some 2
  else if 0xE0 ≤ octet ∧ octet < 0xF0 then some 3
  else if 0xF0 ≤ octet ∧ octet < 0xF8 then some 4
  else none

def octet? (c : Cursor) : Option (Nat × Cursor) :=
  if c.peek == '%' then
    (Text.ofRadix? 16 [c.peekAt 1, c.peekAt 2]).map (·, c.skip 3)
  else none

def moreOctets? (code : Nat) (c : Cursor) : Nat → Option (Nat × Cursor)
  | 0 => some (code, c)
  | more + 1 => do
    let (octet, c) ← octet? c
    if octet < 0x80 ∨ 0xC0 ≤ octet then none
    else moreOctets? (code * 256 + octet) c more

/-- An escaped character. Its octets are taken as one number. -/
def uriEscape? (c : Cursor) : Option (Char × Cursor) := do
  let (first, c) ← octet? c
  let count ← octets? first
  let (code, c) ← moreOctets? first c (count - 1)
  if code.isValidChar then some (Char.ofNat code, c) else none

def uri? (text : List Char) (c : Cursor) : Nat → Option (List Char × Cursor)
  | 0 => none
  | fuel + 1 =>
    if c.peek == '%' then do
      let (x, c) ← uriEscape? c
      uri? (text ++ [x]) c fuel
    else if isUriChar c.peek then uri? (text ++ [c.peek]) c.next fuel
    else some (text, c)

/-- The rest of a tag whose text so far is given; it may be empty only if something came before. -/
def suffix? (given : Bool) (text : List Char) (c : Cursor) : Option (List Char × Cursor) := do
  let (uri, c) ← uri? text c (c.remaining + 1)
  if uri.isEmpty && !given then none else some (uri, c)

/-- A mark, and word characters up to a second mark, which is not always there. -/
def handle? (c : Cursor) : Option (List Char × Cursor) :=
  if c.peek == '!' then
    let (name, c) := c.next.span isWordChar
    if c.peek == '!' then some ('!' :: name ++ ['!'], c.next) else some ('!' :: name, c)
  else none

def verbatim? (c : Cursor) : Option (Tag × Cursor) := do
  let (uri, c) ← suffix? false [] (c.skip 2)
  if c.peek == '>' then some (⟨"", String.ofList uri⟩, c.next) else none

def shorthand? (c : Cursor) : Option (Tag × Cursor) := do
  let (handle, c) ← handle? c
  if handle.length ≥ 2 && handle.getLast? == some '!' then
    let (uri, c) ← suffix? false [] c
    return (⟨String.ofList handle, String.ofList uri⟩, c)
  else
    let (uri, c) ← suffix? true handle.tail c
    if uri.isEmpty then return (⟨"", "!"⟩, c) else return (⟨"!", String.ofList uri⟩, c)

/-- The tag at its first mark; white space has to follow it. -/
def scan? (c : Cursor) : Option (Tag × Cursor) := do
  let (tag, c) ← if c.peekAt 1 == '<' then verbatim? c else shorthand? c
  if isGapOrEnd c.peek then some (tag, c) else none

end Tag

namespace Directive

/-- A version number has one to nine digits. -/
def number? (c : Cursor) : Option Cursor :=
  let (digits, c) := c.span Char.isDigit
  if 1 ≤ digits.length ∧ digits.length ≤ 9 then some c else none

def version? (c : Cursor) : Option Cursor := do
  let c ← number? (c.skipWhile isSpace)
  if c.peek == '.' then number? c.next else none

def tag? (c : Cursor) : Option Cursor := do
  let (handle, c) ← Tag.handle? (c.skipWhile isSpace)
  if handle != ['!'] && !(handle.length ≥ 2 && handle.getLast? == some '!') then none
  let (_, c) ← Tag.suffix? false [] (c.skipWhile isSpace)
  if isGapOrEnd c.peek then some c else none

/-- Past the directive at its mark. Only the form of the known ones is checked. -/
def scan? (c : Cursor) : Option Cursor := do
  let (name, c) := c.next.span isWordChar
  if name.isEmpty || !isGapOrEnd c.peek then none
  let c ← match String.ofList name with
    | "YAML" => version? c
    | "TAG" => tag? c
    | _ => some (c.skipWhile fun x => !isBreakOrEnd x)
  c.finishLine?

end Directive

end QuadFold.Document
