import QuadFold.Document.Node
import QuadFold.Literal
import QuadFold.Numeral.Binary64
import QuadFold.Text.Quoted

/-! What scalars stand for when nothing is known about them, and what is found at fault in them. -/
namespace QuadFold.Document

inductive Found
  | unit
  | boolean (b : Bool)
  | integer (n : Int)
  | floating (x : Numeral.Binary64)
  | text (s : String)
  | sequence
  | mapping
  deriving DecidableEq, Repr

namespace Found

/-- Words of 64 bits, with or without a sign. -/
def isWord (n : Int) : Bool := Int64.minValue.toInt ≤ n && n < UInt64.size

def describe : Found → String
  | unit => "unit value"
  | boolean b => if b then "boolean `true`" else "boolean `false`"
  | integer n =>
    let digits := String.ofList (Text.ofInt n)
    if isWord n then s!"integer `{digits}`"
    else if n < 0 then s!"integer `{digits}` as i128"
    else s!"integer `{digits}` as u128"
  | floating x => "floating point `" ++ x.text ++ "`"
  | text s => "string " ++ Text.quoted s
  | sequence => "sequence"
  | mapping => "map"

end Found

inductive Problem
  | unexpected (found : Found) (expected : String)
  | invalidValue (text : String) (expected : String)
  | unknownVariant (name : String) (variants : List String)
  | duplicateField (name : String)
  | missingField (name : String)
  | invalidLength (length : Nat) (expected : String)
  | noOperand
  deriving DecidableEq, Repr

namespace Problem

def inTicks (s : String) : String := "`" ++ s ++ "`"

/-- Two alternatives are joined by a word, more are listed. -/
def alternatives (names : List String) : String :=
  match names with
  | [a] => inTicks a
  | [a, b] => inTicks a ++ " or " ++ inTicks b
  | names => "one of " ++ String.intercalate ", " (names.map inTicks)

def message : Problem → String
  | unexpected found expected => "invalid type: " ++ found.describe ++ ", expected " ++ expected
  | invalidValue text expected =>
    "invalid value: string " ++ Text.quoted text ++ ", expected " ++ expected
  | unknownVariant name variants =>
    "unknown variant " ++ inTicks name ++ ", expected " ++ alternatives variants
  | duplicateField name => "duplicate field " ++ inTicks name
  | missingField name => "missing field " ++ inTicks name
  | invalidLength length expected =>
    "invalid length " ++ String.ofList (Nat.toDigits 10 length) ++ ", expected " ++ expected
  | noOperand => "data did not match any variant of untagged enum Scalar"

end Problem

namespace Scalar

/-- A number in base 16, 8 or 2. Without a sign, or after a plus, it takes 64 bits; after a minus it
is a word with a sign. A plus may stand before its digits too, but not after a minus. -/
def based? (cs : List Char) : Option Int :=
  let radix? : Char → Option Nat
    | 'x' => some 16
    | 'o' => some 8
    | 'b' => some 2
    | _ => none
  let unsigned (letter : Char) (digits : List Char) : Option Int := do
    let digits := match digits with
      | '+' :: rest => rest
      | _ => digits
    let n ← Text.ofRadix? (← radix? letter) digits
    if n < UInt64.size then some (Int.ofNat n) else none
  match cs with
  | '-' :: '0' :: letter :: digits => do
    let n ← Text.ofRadix? (← radix? letter) digits
    if Int64.minValue.toInt ≤ -(n : Int) then some (-(n : Int)) else none
  | '+' :: '0' :: letter :: digits => unsigned letter digits
  | '0' :: letter :: digits => unsigned letter digits
  | _ => none

/-- Digits after a leading zero, whatever signs come first: a text, not a number. -/
def isPadded (cs : List Char) : Bool :=
  match cs.dropWhile fun c => c == '-' || c == '+' with
  | '0' :: c :: rest => (c :: rest).all Char.isDigit
  | _ => false

/-- An integer that fits in 128 bits. -/
def integer? (cs : List Char) : Option Int := do
  let n ← Text.integer? cs
  if -(Nat.pow 2 127 : Int) ≤ n ∧ n < Nat.pow 2 128 then some n else none

def special? (text : String) : Option Numeral.Binary64 :=
  let unsigned := String.ofList (text.toList.dropWhile (· == '+'))
  if [".inf", ".Inf", ".INF"].contains unsigned then some (.infinite false)
  else if ["-.inf", "-.Inf", "-.INF"].contains text then some (.infinite true)
  else if [".nan", ".NaN", ".NAN"].contains text then some .nan
  else none

def real? (cs : List Char) : Option Numeral.Binary64 :=
  (Text.Decimal.parse? cs).map .ofDecimal

def plainValue (text : String) : Found :=
  let cs := text.toList
  if text = "~" ∨ text = "null" then .unit
  else if text = "true" then .boolean true
  else if text = "false" then .boolean false
  else if let some n := based? cs then .integer n
  else if isPadded cs then .text text
  else if let some n := integer? cs then .integer n
  else if let some x := special? text then .floating x
  else match real? cs with
    | some x => if x.isFinite then .floating x else .text text
    | none => .text text

/-- The names of infinity and of no number, in any case. -/
def namedReal? (cs : List Char) : Option Numeral.Binary64 :=
  let (negative, cs) := Text.Decimal.sign cs
  match String.ofList (cs.map Char.toLower) with
  | "inf" | "infinity" => some (.infinite negative)
  | "nan" => some .nan
  | _ => none

def taggedValue (tag : Tag) (text : String) : Except Problem Found :=
  let cs := text.toList
  if tag.isStandard "bool" then
    if text = "true" then .ok (.boolean true)
    else if text = "false" then .ok (.boolean false)
    else .error (.invalidValue text "a boolean")
  else if tag.isStandard "int" then
    match Literal.value? text with
    | some n => .ok (.integer n.toInt)
    | none => .error (.invalidValue text "an integer")
  else if tag.isStandard "float" then
    match (real? cs).or (namedReal? cs) with
    | some x => .ok (.floating x)
    | none => .error (.invalidValue text "a float")
  else if tag.isStandard "null" then
    if text = "~" ∨ text = "null" then .ok .unit else .error (.invalidValue text "null")
  else .ok (.text text)

def value (s : Scalar) : Except Problem Found :=
  match s.tag with
  | some tag => taggedValue tag s.text
  | none => .ok (if s.plain then plainValue s.text else .text s.text)

end Scalar

end QuadFold.Document
