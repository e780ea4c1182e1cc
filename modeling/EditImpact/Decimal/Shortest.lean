/-!
The decimal text of a double: the fewest digits that read back as the same number, and of those the
nearest to it.
-/

namespace EditImpact.Decimal

/-- A positive number `digits * 10 ^ (point - count)` where `count` is the number of digits; the
decimal point stands `point` places after the start of the digits. -/
structure Digits where
  digits : List Char
  point : Int
  deriving DecidableEq, Repr

/-- A finite positive double as `mantissa * 2 ^ exponent`. -/
structure Binary where
  mantissa : Nat
  exponent : Int
  deriving DecidableEq, Repr

def Binary.ofBits (bits : UInt64) : Binary :=
  let fraction := (bits &&& 0xFFFFFFFFFFFFF).toNat
  let biased := ((bits >>> 52) &&& 0x7FF).toNat
  if biased = 0 then ⟨fraction, -1074⟩ else ⟨fraction + Nat.pow 2 52, (biased : Int) - 1075⟩

/-- Four times the number and the ends of the interval that reads back as it, over one
denominator. -/
structure Interval where
  low : Nat
  value : Nat
  high : Nat
  denominator : Nat
  closed : Bool
  deriving DecidableEq, Repr

def Binary.interval (number : Binary) : Interval :=
  let scale := Nat.pow 2 (number.exponent - 2).toNat
  let lowGap := if number.mantissa = Nat.pow 2 52 && number.exponent ≠ -1074 then 1 else 2
  { low := (4 * number.mantissa - lowGap) * scale
    value := 4 * number.mantissa * scale
    high := (4 * number.mantissa + 2) * scale
    denominator := Nat.pow 2 (2 - number.exponent).toNat
    closed := number.mantissa % 2 = 0 }

/-- Whether `numerator / denominator` reads back as the number. -/
def Interval.holds (interval : Interval) (numerator denominator : Nat) : Bool :=
  let scaled := numerator * interval.denominator
  let low := interval.low * denominator
  let high := interval.high * denominator
  if interval.closed then low ≤ scaled && scaled ≤ high else low < scaled && scaled < high

/-- How many leading zeros follow the decimal point of `numerator / denominator`, which is less
than one. -/
def leadingZeros (denominator : Nat) : Nat → Nat → Nat
  | 0, _ => 0
  | fuel + 1, numerator =>
    if denominator ≤ numerator * 10 then 0 else leadingZeros denominator fuel (numerator * 10) + 1

/-- The place of the decimal point of `numerator / denominator` relative to its first digit. -/
def pointOf (numerator denominator : Nat) : Int :=
  let whole := numerator / denominator
  if whole = 0 then -(leadingZeros denominator 400 numerator : Int)
  else (Nat.toDigits 10 whole).length

def dropZeros (digits : List Char) : List Char := (digits.reverse.dropWhile (· == '0')).reverse

/-- The better of the two neighbours with `count` digits, if one of them reads back. -/
def withDigits (interval : Interval) (point : Int) (count : Nat) : Option Digits :=
  let places := (count : Int) - point
  let up := Nat.pow 10 places.toNat
  let down := Nat.pow 10 (-places).toNat
  let floor := interval.value * up / (interval.denominator * down)
  let reads := fun digits => interval.holds (digits * down) up
  let twice := 2 * interval.value * up
  let middle := (2 * floor + 1) * interval.denominator * down
  let lowerFirst := twice < middle || (twice == middle && floor % 2 == 0)
  let chosen :=
    if reads floor && reads (floor + 1) then some (if lowerFirst then floor else floor + 1)
    else if reads floor then some floor
    else if reads (floor + 1) then some (floor + 1)
    else none
  chosen.map fun digits =>
    let written := Nat.toDigits 10 digits
    ⟨dropZeros written, point + ((written.length : Int) - count)⟩

/-- The shortest digits of a finite positive double. -/
def shortest (number : Binary) : Digits :=
  let interval := number.interval
  let point := pointOf interval.value interval.denominator
  let counts := (List.range 17).map (· + 1)
  (counts.findSome? (withDigits interval point)).getD ⟨['0'], 1⟩

def zeros (count : Int) : List Char := List.replicate count.toNat '0'

/-- Positional from 0.0001 up to 10 to the 16th, with at least one digit after the point; otherwise
with a signed exponent of at least two digits. -/
def Digits.write (number : Digits) : List Char :=
  let count := (number.digits.length : Int)
  if -4 < number.point && number.point ≤ 16 then
    if number.point ≤ 0 then ['0', '.'] ++ zeros (-number.point) ++ number.digits
    else if count ≤ number.point then
      number.digits ++ zeros (number.point - count) ++ ['.', '0']
    else number.digits.take number.point.toNat ++ ['.'] ++ number.digits.drop number.point.toNat
  else
    let exponent := number.point - 1
    let size := Nat.toDigits 10 exponent.natAbs
    let fraction := if number.digits.length ≤ 1 then [] else '.' :: number.digits.drop 1
    number.digits.take 1 ++ fraction ++ ['e', if exponent < 0 then '-' else '+'] ++
      (if size.length < 2 then '0' :: size else size)

/-- The text of any double. -/
def ofFloat (x : Float) : String :=
  let negative := x.toBits >>> 63 == 1
  if x.isNaN then "nan"
  else
    let size :=
      if x.isInf then "inf"
      else if x == 0 then "0.0"
      else String.ofList (shortest (Binary.ofBits (x.toBits &&& 0x7FFFFFFFFFFFFFFF))).write
    if negative then "-" ++ size else size

/-- The whole part of a finite double that is not negative. -/
def wholePart? (x : Float) : Option Nat :=
  if x.isNaN || x.isInf || x < 0 then none
  else
    let number := Binary.ofBits (x.toBits &&& 0x7FFFFFFFFFFFFFFF)
    some (number.mantissa * Nat.pow 2 number.exponent.toNat / Nat.pow 2 (-number.exponent).toNat)

end EditImpact.Decimal
