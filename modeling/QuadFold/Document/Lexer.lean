import QuadFold.Document.Lexer.Scalar
import QuadFold.Document.Token

/-! From the text of a document to its tokens. Indentation opens and closes blocks, and a scalar may
turn out to be a key only when the colon after it is seen; its tokens are then put in front of it. -/
namespace QuadFold.Document

/-- Where a key without an indicator may have started. -/
structure Candidate where
  position : Nat
  required : Bool
  index : Nat
  line : Nat
  column : Nat

/-- A key stays on its line and is not longer than 1024 characters. -/
def Candidate.isStale (k : Candidate) (c : Cursor) : Bool :=
  k.line < c.line || k.index + 1024 < c.index

/-- The state of lexing. Level 0 is block context; each open bracket or brace adds a level, with a
candidate for a key of its own. -/
structure Lexer where
  cursor : Cursor
  tokens : Array Token := #[]
  keyAllowed : Bool := true
  candidate : Option Candidate := none
  outer : List (Option Candidate) := []
  indent : Int := -1
  indents : List Int := []
  /-- The place after the last quoted scalar: a colon right there needs no blank. -/
  adjacent : Nat := 0
  finished : Bool := false

namespace Lexer

def level (l : Lexer) : Nat := l.outer.length

def inFlow (l : Lexer) : Bool := !l.outer.isEmpty

def push (l : Lexer) (t : Token) : Lexer := { l with tokens := l.tokens.push t }

/-- Past blanks, comments and line breaks. After a break in block context a key may start, and a
tab then is no blank. -/
def skipGap (l : Lexer) : Nat → Lexer
  | 0 => l
  | fuel + 1 =>
    let c := l.cursor
    if c.peek == ' ' || (c.peek == '\t' && (l.inFlow || !l.keyAllowed)) then
      skipGap { l with cursor := c.next } fuel
    else if isBreak c.peek then
      skipGap { l with cursor := c.skipBreak, keyAllowed := l.keyAllowed || !l.inFlow } fuel
    else if c.peek == '#' then skipGap { l with cursor := c.skipComment } fuel
    else l

def refresh? (c : Cursor) : Option Candidate → Option (Option Candidate)
  | some k => if k.isStale c then (if k.required then none else some none) else some (some k)
  | none => some none

/-- Gives up the candidates that have become too old; one that had to be a key is an error. -/
def dropStale? (l : Lexer) : Option Lexer := do
  let candidate ← refresh? l.cursor l.candidate
  let outer ← l.outer.mapM (refresh? l.cursor)
  return { l with candidate, outer }

def dropCandidate? (l : Lexer) : Option Lexer :=
  if l.candidate.any (·.required) then none else some { l with candidate := none }

def saveCandidate? (l : Lexer) : Option Lexer :=
  if l.keyAllowed then do
    let l ← l.dropCandidate?
    let c := l.cursor
    let required := l.inFlow && l.indent == (c.column : Int)
    return { l with candidate := some ⟨l.tokens.size, required, c.index, c.line, c.column⟩ }
  else some l

/-- Opens a block at this column, if it is further in than the present one. -/
def openBlock (l : Lexer) (column : Nat) (position : Nat) (t : Token) : Lexer :=
  if !l.inFlow && l.indent < (column : Int) then
    { l with
      tokens := l.tokens.insertIdxIfInBounds position t
      indents := l.indent :: l.indents
      indent := column }
  else l

def closeBlocks (l : Lexer) (column : Int) : Lexer :=
  if l.inFlow then l
  else
    let rec go (tokens : Array Token) (indent : Int) : List Int → Array Token × Int × List Int
      | [] => (tokens, indent, [])
      | parent :: rest =>
        if indent > column then go (tokens.push .blockEnd) parent rest
        else (tokens, indent, parent :: rest)
    let (tokens, indent, indents) := go l.tokens l.indent l.indents
    { l with tokens, indent, indents }

def finish? (l : Lexer) : Option Lexer := do
  let l ← (l.closeBlocks (-1)).dropCandidate?
  return { l.push .streamEnd with keyAllowed := false, finished := true }

def directive? (l : Lexer) : Option Lexer := do
  let l ← (l.closeBlocks (-1)).dropCandidate?
  let cursor ← Directive.scan? l.cursor
  return { l.push .directive with keyAllowed := false, cursor }

def boundary? (l : Lexer) (t : Token) : Option Lexer := do
  let l ← (l.closeBlocks (-1)).dropCandidate?
  return { l.push t with keyAllowed := false, cursor := l.cursor.skip 3 }

/-- Brackets and braces nest at most 255 deep. -/
def openFlow? (l : Lexer) (t : Token) : Option Lexer := do
  let l ← l.saveCandidate?
  if l.level ≥ 255 then none
  return { l.push t with
    outer := l.candidate :: l.outer, candidate := none, keyAllowed := true, cursor := l.cursor.next }

def closeFlow? (l : Lexer) (t : Token) : Option Lexer := do
  let l ← l.dropCandidate?
  let l := match l.outer with
    | candidate :: outer => { l with candidate, outer }
    | [] => l
  return { l.push t with keyAllowed := false, cursor := l.cursor.next }

def flowEntry? (l : Lexer) : Option Lexer := do
  let l ← l.dropCandidate?
  return { l.push .flowEntry with keyAllowed := true, cursor := l.cursor.next }

def blockEntry? (l : Lexer) : Option Lexer := do
  if l.inFlow || !l.keyAllowed then none
  let l ← (l.openBlock l.cursor.column l.tokens.size .blockSequence).dropCandidate?
  return { l.push .blockEntry with keyAllowed := true, cursor := l.cursor.next }

def key? (l : Lexer) : Option Lexer := do
  if !l.inFlow && !l.keyAllowed then none
  let l ← (l.openBlock l.cursor.column l.tokens.size .blockMapping).dropCandidate?
  return { l.push .key with keyAllowed := !l.inFlow, cursor := l.cursor.next }

/-- A value after a colon; its key starts at the candidate, if there is one. -/
def value? (l : Lexer) : Option Lexer := do
  let l ← match l.candidate with
    | some k =>
      let l := { l with tokens := l.tokens.insertIdxIfInBounds k.position .key }
      let l := l.openBlock k.column k.position .blockMapping
      some { l with candidate := none, keyAllowed := false }
    | none =>
      if !l.inFlow && !l.keyAllowed then none
      else
        let l := l.openBlock l.cursor.column l.tokens.size .blockMapping
        some { l with keyAllowed := !l.inFlow }
  return { l.push .value with cursor := l.cursor.next }

def anchor? (l : Lexer) (token : String → Token) : Option Lexer := do
  let l ← l.saveCandidate?
  let (name, cursor) ← anchorName? l.cursor.next
  return { l.push (token name) with keyAllowed := false, cursor }

def tag? (l : Lexer) : Option Lexer := do
  let l ← l.saveCandidate?
  let (tag, cursor) ← Tag.scan? l.cursor
  return { l.push (.tag tag) with keyAllowed := false, cursor }

def scalar (l : Lexer) (plain : Bool) (text : List Char) (cursor : Cursor) : Lexer :=
  { l.push (.scalar plain (String.ofList text)) with cursor }

def block? (l : Lexer) (literal : Bool) : Option Lexer := do
  let l ← l.saveCandidate?
  let (text, cursor) ← Block.scan? literal l.indent l.cursor
  return { l.scalar false text cursor with keyAllowed := true }

def quoted? (l : Lexer) (single : Bool) : Option Lexer := do
  let l ← l.saveCandidate?
  let (text, cursor) ← Quoted.scan? single [] l.cursor.next (l.cursor.remaining + 1)
  return { l.scalar false text cursor with keyAllowed := false, adjacent := cursor.index }

def plain? (l : Lexer) : Option Lexer := do
  let l ← l.saveCandidate?
  let (text, broken, cursor) ←
    Plain.scan? l.inFlow (l.indent + 1) [] (.blanks []) l.cursor (l.cursor.remaining + 1)
  return { l.scalar true text cursor with keyAllowed := broken }

/-- One more token from this place, where neither a gap nor the end is. -/
def token? (l : Lexer) : Option Lexer :=
  let c := l.cursor
  let next := c.peekAt 1
  if c.column == 0 && c.peek == '%' then l.directive?
  else if c.atMarker '-' then l.boundary? .documentStart
  else if c.atMarker '.' then l.boundary? .documentEnd
  else match c.peek with
    | '[' => l.openFlow? .flowSequence
    | '\x7b' => l.openFlow? .flowMapping
    | ']' => l.closeFlow? .flowSequenceEnd
    | '\x7d' => l.closeFlow? .flowMappingEnd
    | ',' => l.flowEntry?
    | '-' => if isGapOrEnd next then l.blockEntry? else l.plain?
    | '?' => if isGapOrEnd next then l.key? else l.plain?
    | ':' =>
      if isGapOrEnd next || (l.inFlow && (isFlowIndicator next || c.index == l.adjacent)) then
        l.value?
      else l.plain?
    | '*' => l.anchor? .reference
    | '&' => l.anchor? .anchor
    | '!' => l.tag?
    | '|' => if l.inFlow then l.plain? else l.block? true
    | '>' => if l.inFlow then l.plain? else l.block? false
    | '\'' => l.quoted? true
    | '"' => l.quoted? false
    | '%' | '@' | '`' => none
    | _ => l.plain?

def next? (l : Lexer) : Option Lexer := do
  let l := l.skipGap (l.cursor.remaining + 1)
  let l ← l.dropStale?
  let l := l.closeBlocks l.cursor.column
  if isEnd l.cursor.peek then l.finish? else l.token?

def run? (l : Lexer) : Nat → Option Lexer
  | 0 => none
  | fuel + 1 => do
    let l ← l.next?
    if l.finished then some l else l.run? fuel

end Lexer

/-- The tokens of a text, closed by the end of the stream; `none` if it is no document. Each step
but the last passes at least one character. -/
def tokens? (source : List Char) : Option (List Token) :=
  (({ cursor := { rest := source } } : Lexer).run? (source.length + 1)).map (·.tokens.toList)

end QuadFold.Document
