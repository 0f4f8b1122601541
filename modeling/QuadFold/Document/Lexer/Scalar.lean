import QuadFold.Document.Cursor
import QuadFold.Text.Number

/-! Scalars: without quotes, in single or double quotes, and in whole lines after `|` or `>`. White
space inside one of the first two kinds may break the line, and is then folded. -/
namespace QuadFold.Document

inductive Gap
  /-- Blanks on one line, the last one first. -/
  | blanks (cs : List Char)
  /-- A line break and this many more. -/
  | folded (more : Nat)
  /-- A line break that was escaped, and this many more. -/
  | spliced (more : Nat)

namespace Gap

/-- A single break becomes a space, and each further one stays; an escaped one vanishes. The text
has its last character first. -/
def text : Gap → List Char
  | blanks cs => cs
  | folded 0 => [' ']
  | folded more => List.replicate more '\n'
  | spliced more => List.replicate more '\n'

def isBroken : Gap → Bool
  | blanks _ => false
  | _ => true

def addBlank (g : Gap) (c : Char) : Gap :=
  match g with
  | blanks cs => blanks (c :: cs)
  | g => g

def addBreak : Gap → Gap
  | blanks _ => folded 0
  | folded more => folded (more + 1)
  | spliced more => spliced (more + 1)

/-- Reads on to the next visible character. A tab that stands before column `margin` on a
continuation line is refused. -/
def scan? (margin : Int) (g : Gap) (c : Cursor) : Nat → Option (Gap × Cursor)
  | 0 => some (g, c)
  | fuel + 1 =>
    if isSpace c.peek then
      if g.isBroken && (c.column : Int) < margin && c.peek == '\t' then none
      else scan? margin (g.addBlank c.peek) c.next fuel
    else if isBreak c.peek then scan? margin g.addBreak c.skipBreak fuel
    else some (g, c)

end Gap

namespace Plain

/-- The characters up to white space or to an indicator that ends the scalar. -/
def run (flow : Bool) : List Char → List Char
  | [] => []
  | c :: rest =>
    let next := rest.headD '\x00'
    if isGapOrEnd c then []
    else if c == ':' && (isGapOrEnd next || (flow && isFlowIndicator next)) then []
    else if flow && isFlowIndicator c then []
    else c :: run flow rest

/-- The scalar from here on, given its text so far from the last character on, and the gap before
this place. The flag tells whether a line break was passed after the last of its characters. -/
def scan? (flow : Bool) (margin : Int) (text : List Char) (gap : Gap) (c : Cursor) :
    Nat → Option (List Char × Bool × Cursor)
  | 0 => none
  | fuel + 1 =>
    if c.atBoundary || c.peek == '#' then some (text.reverse, gap.isBroken, c)
    else do
      let word := run flow c.rest
      let text := if word.isEmpty then text else word.reverse ++ gap.text ++ text
      let gap := if word.isEmpty then gap else .blanks []
      let c := c.skip word.length
      if !(isSpace c.peek || isBreak c.peek) then return (text.reverse, gap.isBroken, c)
      let (gap, c) ← Gap.scan? margin (.blanks []) c c.remaining
      if !flow && (c.column : Int) < margin then return (text.reverse, gap.isBroken, c)
      scan? flow margin text gap c fuel

end Plain

namespace Quoted

def codePoint? (n : Nat) : Option Char :=
  if n.isValidChar then some (Char.ofNat n) else none

/-- How the code of an escape goes on: by a character, or by this many hexadecimal digits. -/
def escape? : Char → Option (Char ⊕ Nat)
  | '0' => some (.inl '\x00')
  | 'a' => some (.inl '\x07')
  | 'b' => some (.inl '\x08')
  | 't' | '\t' => some (.inl '\t')
  | 'n' => some (.inl '\n')
  | 'v' => some (.inl '\x0b')
  | 'f' => some (.inl '\x0c')
  | 'r' => some (.inl '\r')
  | 'e' => some (.inl '\x1b')
  | ' ' => some (.inl ' ')
  | '"' => some (.inl '"')
  | '\'' => some (.inl '\'')
  | '\\' => some (.inl '\\')
  | 'N' => some (.inl '\u0085')
  | '_' => some (.inl '\u00a0')
  | 'L' => some (.inl '\u2028')
  | 'P' => some (.inl '\u2029')
  | 'x' => some (.inr 2)
  | 'u' => some (.inr 4)
  | 'U' => some (.inr 8)
  | _ => none

def escaped? (c : Cursor) : Option (Char × Cursor) := do
  match ← escape? (c.peekAt 1) with
  | .inl x => return (x, c.skip 2)
  | .inr width =>
    let digits := (List.range width).map fun i => c.peekAt (i + 2)
    let n ← Text.ofRadix? 16 digits
    return (← codePoint? n, c.skip (width + 2))

/-- The characters up to white space, to the closing quote, or past an escaped line break, as the
flag tells. They come before the text so far, which has its last character first. -/
def run? (single : Bool) (text : List Char) (c : Cursor) : Nat → Option (List Char × Bool × Cursor)
  | 0 => none
  | fuel + 1 =>
    if isGapOrEnd c.peek then some (text, false, c)
    else if single then
      if c.peek == '\'' then
        if c.peekAt 1 == '\'' then run? single ('\'' :: text) (c.skip 2) fuel
        else some (text, false, c)
      else run? single (c.peek :: text) c.next fuel
    else if c.peek == '"' then some (text, false, c)
    else if c.peek == '\\' then
      if isBreak (c.peekAt 1) then some (text, true, c.next.skipBreak)
      else do
        let (x, c) ← escaped? c
        run? single (x :: text) c fuel
    else run? single (c.peek :: text) c.next fuel

/-- The scalar after its opening quote, given its text so far from the last character on, and the
place after its closing one. -/
def scan? (single : Bool) (text : List Char) (c : Cursor) : Nat → Option (List Char × Cursor)
  | 0 => none
  | fuel + 1 => do
    if c.atBoundary || isEnd c.peek then none
    let (text, spliced, c) ← run? single text c (c.remaining + 1)
    if c.peek == (if single then '\'' else '"') then return (text.reverse, c.next)
    let (gap, c) ← Gap.scan? 0 (if spliced then .spliced 0 else .blanks []) c c.remaining
    scan? single (gap.text ++ text) c fuel

end Quoted

namespace Block

inductive Chomping
  | strip | clip | keep
  deriving DecidableEq

structure Header where
  chomping : Chomping := .clip
  increment : Nat := 0

def chomping? : Char → Option Chomping
  | '+' => some .keep
  | '-' => some .strip
  | _ => none

/-- The indicators after `|` or `>`, in either order; an indentation of zero is refused. -/
def header? (c : Cursor) : Option (Header × Cursor) :=
  match chomping? c.peek with
  | some chomping =>
    let c := c.next
    if c.peek.isDigit then
      if c.peek == '0' then none
      else some (⟨chomping, c.peek.toNat - '0'.toNat⟩, c.next)
    else some (⟨chomping, 0⟩, c)
  | none =>
    if c.peek.isDigit then
      if c.peek == '0' then none
      else
        let increment := c.peek.toNat - '0'.toNat
        let c := c.next
        match chomping? c.peek with
        | some chomping => some (⟨chomping, increment⟩, c.next)
        | none => some (⟨.clip, increment⟩, c)
    else some ({}, c)

/-- Past indentation and empty lines, with the number of their breaks and the greatest column
reached. An indentation of zero stands for one not yet known. -/
def leading? (indent : Nat) (breaks widest : Nat) (c : Cursor) : Nat → Option (Nat × Nat × Cursor)
  | 0 => none
  | fuel + 1 =>
    let inside (c : Cursor) := indent == 0 || c.column < indent
    if inside c && c.peek == ' ' then leading? indent breaks widest c.next fuel
    else if inside c && c.peek == '\t' then none
    else
      let widest := max widest c.column
      if isBreak c.peek then leading? indent (breaks + 1) widest c.skipBreak fuel
      else some (breaks, widest, c)

/-- The same, with the indentation: one not yet known becomes that of the first line with text, but
is greater than that of the parent. -/
def margin? (parent : Int) (indent : Nat) (c : Cursor) : Option (Nat × Nat × Cursor) := do
  let (breaks, widest, c) ← leading? indent 0 0 c (c.remaining + 1)
  let indent := if indent == 0 then max (max widest (parent + 1).toNat) 1 else indent
  return (indent, breaks, c)

/-- The lines of the scalar. `broken` tells whether a line break is pending before this line,
`breaks` how many empty lines are, and `spaced` whether the line before started with a blank. The
text has its last character first. -/
def lines? (literal : Bool) (parent : Int) (indent : Nat) (text : List Char) (broken : Bool)
    (breaks : Nat) (spaced : Bool) (c : Cursor) : Nat → Option (List Char × Bool × Nat × Cursor)
  | 0 => none
  | fuel + 1 =>
    if c.column != indent || isEnd c.peek then some (text, broken, breaks, c)
    else do
      let blank := isSpace c.peek
      let joined :=
        if !literal && broken && !spaced && !blank then (if breaks == 0 then [' '] else [])
        else if broken then ['\n'] else []
      let (line, c) := c.span fun x => !isBreakOrEnd x
      let text := line.reverse ++ List.replicate breaks '\n' ++ joined ++ text
      if isEnd c.peek then return (text, false, 0, c)
      let (indent, breaks, c) ← margin? parent indent c.skipBreak
      lines? literal parent indent text true breaks blank c fuel

/-- The scalar at its indicator, inside a block of the given indentation. -/
def scan? (literal : Bool) (parent : Int) (c : Cursor) : Option (List Char × Cursor) := do
  let (header, c) ← header? c.next
  let c ← c.finishLine?
  let indent :=
    if header.increment == 0 then 0
    else if parent ≥ 0 then parent.toNat + header.increment else header.increment
  let (indent, breaks, c) ← margin? parent indent c
  let (text, broken, breaks, c) ←
    lines? literal parent indent [] false breaks false c (c.remaining + 1)
  let last := if broken && header.chomping != .strip then ['\n'] else []
  let kept := if header.chomping == .keep then List.replicate breaks '\n' else []
  return (text.reverse ++ last ++ kept, c)

end Block

end QuadFold.Document
