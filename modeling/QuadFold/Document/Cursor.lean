/-! A place in the text of a document, and the classes of characters that matter there. The end of
the text reads as the character zero, and a character zero ends the text. -/
namespace QuadFold.Document

def isEnd (c : Char) : Bool := c == '\x00'

def isBreak (c : Char) : Bool := c == '\n' || c == '\r'

def isSpace (c : Char) : Bool := c == ' ' || c == '\t'

def isBreakOrEnd (c : Char) : Bool := isBreak c || isEnd c

def isGapOrEnd (c : Char) : Bool := isSpace c || isBreakOrEnd c

/-- Characters of anchors, tag handles and directive names. -/
def isWordChar (c : Char) : Bool := c.isAlphanum || c == '_' || c == '-'

/-- Characters with a meaning of their own inside brackets and braces. -/
def isFlowIndicator (c : Char) : Bool :=
  c == ',' || c == '[' || c == ']' || c == '\x7b' || c == '\x7d'

/-- What is left of a text of `total` characters, and where it starts. A line starts after a line
feed only. -/
structure Cursor where
  rest : List Char
  total : Nat := rest.length
  index : Nat := 0
  line : Nat := 1
  column : Nat := 0

namespace Cursor

/-- How many characters are left, which bounds every loop over them. -/
def remaining (c : Cursor) : Nat := c.total - c.index

def peekAt (c : Cursor) (n : Nat) : Char := c.rest.getD n '\x00'

def peek (c : Cursor) : Char := c.peekAt 0

def next (c : Cursor) : Cursor :=
  match c.rest with
  | [] => c
  | '\n' :: rest => { c with rest, index := c.index + 1, line := c.line + 1, column := 0 }
  | _ :: rest => { c with rest, index := c.index + 1, column := c.column + 1 }

def skip (c : Cursor) : Nat → Cursor
  | 0 => c
  | n + 1 => c.next.skip n

def span (c : Cursor) (p : Char → Bool) : List Char × Cursor :=
  let run := c.rest.takeWhile p
  (run, c.skip run.length)

def skipWhile (c : Cursor) (p : Char → Bool) : Cursor := (c.span p).2

/-- Past one line break, if there is one: a carriage return and a line feed are a single break. -/
def skipBreak (c : Cursor) : Cursor :=
  if c.peek == '\r' && c.peekAt 1 == '\n' then c.skip 2
  else if isBreak c.peek then c.next
  else c

def skipComment (c : Cursor) : Cursor :=
  if c.peek == '#' then c.skipWhile fun x => !isBreakOrEnd x else c

/-- Past the blanks and the comment at the end of a line and past its break; `none` if something
else stands there. -/
def finishLine? (c : Cursor) : Option Cursor :=
  let c := (c.skipWhile isSpace).skipComment
  if isBreakOrEnd c.peek then some c.skipBreak else none

/-- A line of three equal marks, as between documents. -/
def atMarker (c : Cursor) (mark : Char) : Bool :=
  c.column == 0 && c.peek == mark && c.peekAt 1 == mark && c.peekAt 2 == mark &&
    isGapOrEnd (c.peekAt 3)

def atBoundary (c : Cursor) : Bool := c.atMarker '-' || c.atMarker '.'

end Cursor

end QuadFold.Document
