import QuadFold.Text.Number

/-! Numbers with 53 significant bits: the nearest one to a decimal, and the shortest decimal that is
nearest to one. All arithmetic is exact. -/
namespace QuadFold.Numeral

/-- A finite number is `significand * 2 ^ exponent` with at most 53 bits, or its negative. -/
inductive Binary64
  | nan
  | infinite (negative : Bool)
  | finite (negative : Bool) (significand : Nat) (exponent : Int)
  deriving DecidableEq, Repr

structure Ratio where
  num : Nat
  den : Nat

namespace Ratio

def scale (r : Ratio) (base : Nat) (e : Int) : Ratio :=
  if e ≥ 0 then ⟨r.num * base.pow e.toNat, r.den⟩ else ⟨r.num, r.den * base.pow (-e).toNat⟩

def floor (r : Ratio) : Nat := r.num / r.den

/-- The nearest whole number; a half goes to the even one. -/
def round (r : Ratio) : Nat :=
  let whole := r.num / r.den
  let twice := 2 * (r.num % r.den)
  if twice > r.den || (twice == r.den && whole % 2 == 1) then whole + 1 else whole

def le (a b : Ratio) : Bool := a.num * b.den ≤ b.num * a.den

def lt (a b : Ratio) : Bool := a.num * b.den < b.num * a.den

end Ratio

namespace Binary64

/-- The significand and exponent nearest to a positive fraction. -/
def nearest (r : Ratio) : Nat × Int :=
  let guess : Int := (Nat.log2 r.num : Int) - Nat.log2 r.den - 53
  let exponent := if (r.scale 2 (-guess)).floor ≥ Nat.pow 2 53 then guess + 1 else guess
  let exponent := max exponent (-1074)
  let significand := (r.scale 2 (-exponent)).round
  if significand = Nat.pow 2 53 then (Nat.pow 2 52, exponent + 1) else (significand, exponent)

/-- Far too large exponents are infinite, and far too small ones are zero, before any power is
taken. -/
def ofDecimal (d : Text.Decimal) : Binary64 :=
  let magnitude := d.exponent + (Nat.toDigits 10 d.digits).length
  if d.digits = 0 ∨ magnitude < -400 then finite d.negative 0 0
  else if magnitude > 400 then infinite d.negative
  else
    let (significand, exponent) := nearest ((⟨d.digits, 1⟩ : Ratio).scale 10 d.exponent)
    if exponent > 971 then infinite d.negative else finite d.negative significand exponent

def isFinite : Binary64 → Bool
  | finite .. => true
  | _ => false

/-- The decimals that read back as a given number lie between `low` and `high`. -/
structure Interval where
  value : Ratio
  low : Ratio
  high : Ratio
  closed : Bool

def Interval.holds (i : Interval) (r : Ratio) : Bool :=
  if i.closed then i.low.le r && r.le i.high else i.low.lt r && r.lt i.high

/-- Half way to the two neighbours; the one below a power of two is nearer. -/
def interval (significand : Nat) (exponent : Int) : Interval :=
  let at4 (n : Nat) : Ratio := (⟨n, 1⟩ : Ratio).scale 2 (exponent - 2)
  let below := if significand = Nat.pow 2 52 ∧ exponent > -1074 then 1 else 2
  { value := at4 (4 * significand)
    low := at4 (4 * significand - below)
    high := at4 (4 * significand + 2)
    closed := significand % 2 == 0 }

/-- The multiple of `10 ^ k` that reads back, the nearer one of two; a tie goes up. -/
def onGrid? (i : Interval) (k : Int) : Option Nat :=
  let down := (i.value.scale 10 (-k)).floor
  let point (n : Nat) : Ratio := (⟨n, 1⟩ : Ratio).scale 10 k
  let twice : Ratio := ⟨2 * i.value.num, i.value.den⟩
  let middle : Ratio := (⟨2 * down + 1, 1⟩ : Ratio).scale 10 k
  match down > 0 && i.holds (point down), i.holds (point (down + 1)) with
  | true, true => some (if twice.lt middle then down else down + 1)
  | true, false => some down
  | false, true => some (down + 1)
  | false, false => none

/-- The coarsest grid with a decimal that reads back, from `10 ^ k` on. -/
def shortest (i : Interval) (k : Int) : Nat → Nat × Int
  | 0 => (0, k)
  | fuel + 1 =>
    match onGrid? i k with
    | some n => (n, k)
    | none => shortest i (k - 1) fuel

/-- `digits * 10 ^ k` without an exponent and with at least one digit after the point. -/
def positional (digits : List Char) (k : Int) : List Char :=
  if k ≥ 0 then digits ++ List.replicate k.toNat '0' ++ ['.', '0']
  else
    let places := (-k).toNat
    let padded := List.replicate (places + 1 - digits.length) '0' ++ digits
    padded.take (padded.length - places) ++ '.' :: padded.drop (padded.length - places)

def minus (negative : Bool) (cs : List Char) : List Char := if negative then '-' :: cs else cs

/-- The fewest digits that read back, written out in full. -/
def text : Binary64 → String
  | nan => "NaN"
  | infinite negative => String.ofList (minus negative "inf".toList)
  | finite negative significand exponent =>
    if significand = 0 then String.ofList (minus negative "0.0".toList)
    else
      let (n, k) := shortest (interval significand exponent) 309 650
      String.ofList (minus negative (positional (Nat.toDigits 10 n) k))

end Binary64

end QuadFold.Numeral
