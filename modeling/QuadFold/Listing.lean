import QuadFold.Program
import QuadFold.Text.Characters

/-! Listings: one instruction a line, and `//` starts a comment. An operator stands between blanks,
so `x = a -1` is refused and `x = a - -1` subtracts a negative literal. -/
namespace QuadFold.Listing

/-- The lines of a text. A line ends with a line feed, or a carriage return and a line feed, and
the last one may lack its end; a carriage return anywhere else belongs to its line. -/
def lines : List Char → List (List Char)
  | [] => []
  | '\n' :: rest => [] :: lines rest
  | '\r' :: '\n' :: rest => [] :: lines rest
  | c :: rest =>
    match lines rest with
    | [] => [[c]]
    | line :: more => (c :: line) :: more

def code : List Char → List Char
  | [] => []
  | '/' :: '/' :: _ => []
  | c :: rest => c :: code rest

def isGap (c : Char) : Bool := c == ' ' || c == '\t'

def isNameChar (c : Char) : Bool := Text.isAlphanumeric c || c == '_'

def isOperandChar (c : Char) : Bool := isNameChar c || c == '-'

def skipGap (cs : List Char) : List Char := cs.dropWhile isGap

/-- The longest run of characters of a class, if there is one, and what follows it. -/
def word? (p : Char → Bool) (cs : List Char) : Option (String × List Char) :=
  if cs.takeWhile p = [] then none
  else some (String.ofList (cs.takeWhile p), cs.dropWhile p)

def gap? : List Char → Option (List Char)
  | c :: rest => if isGap c then some (skipGap rest) else none
  | [] => none

def symbol? : List Char → Option (Operator × List Char)
  | c :: rest => (Operator.ofSymbol? c).map (·, rest)
  | [] => none

def equals? : List Char → Option (List Char)
  | '=' :: rest => some rest
  | _ => none

def tail? (cs : List Char) : Option ((Operator × Operand) × List Char) := do
  let cs ← gap? cs
  let (operator, cs) ← symbol? cs
  let cs ← gap? cs
  let (right, cs) ← word? isOperandChar cs
  return ((operator, right), cs)

def instruction? (cs : List Char) : Option Instruction := do
  let (result, cs) ← word? isNameChar (skipGap cs)
  let cs ← equals? (skipGap cs)
  let (left, cs) ← word? isOperandChar (skipGap cs)
  match tail? cs with
  | some ((operator, right), cs) =>
    if skipGap cs = [] then some { operator, left, right := some right, result } else none
  | none => if skipGap cs = [] then some { left, result } else none

/-- What a line without its comment holds: nothing if it is blank. -/
def read (number : Nat) (code : List Char) : Except Error (Option Instruction) :=
  if Text.allBlank code then .ok none
  else match instruction? code with
    | none => .error (.unreadableLine number (String.ofList (Text.trim code)))
    | some i => i.checked.map some

def parseLines (number : Nat) : List (List Char) → Except Error Program
  | [] => .ok []
  | line :: rest => do
    let i ← read number (code line)
    let p ← parseLines (number + 1) rest
    return i.toList ++ p

def parse (source : String) : Except Error Program :=
  parseLines 1 (lines source.toList)

end QuadFold.Listing
