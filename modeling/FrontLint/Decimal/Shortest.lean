/-
  FrontLint.Decimal.Shortest — the decimal with the fewest digits that reads back as a given double,
  and its positional text.

  A finite double is `m · 2^q`. The numbers that round to it form an interval, which reaches halfway
  to its neighbours and includes its ends when `m` is even. For one digit, two digits, and so on,
  the two decimals next to the double are tried; the first that lies in the interval is taken, the
  nearer one if both do. All of this is done in whole numbers.
-/

namespace FrontLint

/-- The number `digits · 10^exponent`. -/
structure Decimal where
  digits : Nat
  exponent : Int
  deriving DecidableEq, Repr

namespace Decimal

/-- A positive double and the interval of numbers that round to it, as fractions over `den`. -/
structure Interval where
  value : Nat
  low : Nat
  high : Nat
  den : Nat
  closed : Bool

def Interval.ofBits (bits : UInt64) : Interval :=
  let e := ((bits >>> 52) &&& 0x7FF).toNat
  let f := (bits &&& 0xFFFFFFFFFFFFF).toNat
  let m := if e = 0 then f else 0x10000000000000 + f
  let shift := if e = 0 then 1 else e
  -- The value is `m · 2^(shift - 1075)`; just above a power of two the gap below is half as wide.
  let below := if f = 0 ∧ 1 < e then 1 else 2
  let up := Nat.pow 2 (shift - 1075)
  { value := 4 * m * up
    low := (4 * m - below) * up
    high := (4 * m + 2) * up
    den := 4 * Nat.pow 2 (1075 - shift)
    closed := m % 2 = 0 }

/-- Whether `c · 10^e` lies in the interval. -/
def Interval.holds (x : Interval) (c : Nat) (e : Int) : Bool :=
  let left := c * Nat.pow 10 e.toNat * x.den
  let scale := Nat.pow 10 (-e).toNat
  if x.closed then x.low * scale ≤ left && left ≤ x.high * scale
  else x.low * scale < left && left < x.high * scale

/-- How many digits stand before the point; zero or less if the number is below one tenth. -/
def Interval.magnitude (x : Interval) : Int :=
  let whole := x.value / x.den
  if 0 < whole then (Nat.toDigits 10 whole).length
  else
    match (List.range 400).find? fun j => x.den ≤ x.value * Nat.pow 10 (j + 1) with
    | some j => -(j : Int)
    | none => 0

/-- The decimal with `n` digits that lies in the interval, if one does. -/
def Interval.withDigits? (x : Interval) (n : Nat) : Option Decimal :=
  let e := x.magnitude - n
  let num := x.value * Nat.pow 10 (-e).toNat
  let unit := x.den * Nat.pow 10 e.toNat
  let down := num / unit
  let upIsNearer := unit ≤ 2 * (num % unit)
  match x.holds down e, x.holds (down + 1) e with
  | true, true => some ⟨if upIsNearer then down + 1 else down, e⟩
  | true, false => some ⟨down, e⟩
  | false, true => some ⟨down + 1, e⟩
  | false, false => none

/-- The same number without zeros at the end of its digits. -/
def trimmed (d : Decimal) : Decimal :=
  if 0 < d.digits ∧ d.digits % 10 = 0 then trimmed ⟨d.digits / 10, d.exponent + 1⟩ else d
termination_by d.digits
decreasing_by omega

def Interval.shortest (x : Interval) : Decimal :=
  ((((List.range 17).map (· + 1)).findSome? x.withDigits?).getD ⟨0, 0⟩).trimmed

/-- The positional text of a decimal, with at least one digit on each side of the point. -/
def positional (d : Decimal) : String :=
  let digits := Nat.toDigits 10 d.digits
  if 0 ≤ d.exponent then
    String.ofList (digits ++ List.replicate d.exponent.toNat '0') ++ ".0"
  else
    let places := (-d.exponent).toNat
    let digits := List.replicate (places + 1 - digits.length) '0' ++ digits
    let whole := digits.take (digits.length - places)
    String.ofList whole ++ "." ++ String.ofList (digits.drop whole.length)

/-- The text of a double: its shortest decimal written out, `inf` or `NaN`. -/
def ofFloat (x : Float) : String :=
  if x.isNaN then "NaN"
  else
    let bits := x.toBits
    let sign := if bits >>> 63 = 1 then "-" else ""
    let bits := bits &&& 0x7FFFFFFFFFFFFFFF
    if x.isInf then sign ++ "inf"
    else if bits = 0 then sign ++ "0.0"
    else sign ++ (Interval.ofBits bits).shortest.positional

end Decimal

end FrontLint
