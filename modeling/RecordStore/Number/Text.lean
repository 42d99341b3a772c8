import RecordStore.Number.Shortest

namespace RecordStore

/-!
# Written numbers

The text of a double is its decimal digits laid out as a `DoubleStyle` says: positionally between
two exponents, and otherwise with one digit before the point and an exponent.
-/

structure DoubleStyle where
  /-- How a tie between two shortest decimals is resolved. -/
  tie : Tie
  /-- The least and greatest exponent of the leading digit that are written positionally. -/
  leastPositional : Int
  greatestPositional : Int
  /-- Whether a positive exponent carries its sign. -/
  signedExponent : Bool
  /-- How many digits an exponent has at least. -/
  exponentWidth : Nat
  /-- Whether the point and a zero stand after a lone leading digit. -/
  keepsPoint : Bool
deriving DecidableEq

namespace DoubleStyle

/-- Positional from 0.0001 up to but not including 10¹⁶. -/
def inspected : DoubleStyle := ⟨.up, -4, 15, false, 1, false⟩

/-- Positional from 0.00001 up to but not including 10¹⁶. -/
def json : DoubleStyle := ⟨.even, -5, 15, true, 1, false⟩

/-- Positional from 0.0001 up to but not including 10¹⁵, for decimals of fifteen digits. -/
def sqlite : DoubleStyle := ⟨.up, -4, 14, true, 2, true⟩

end DoubleStyle

def padLeft (width : Nat) (digits : List Char) : List Char :=
  List.replicate (width - digits.length) '0' ++ digits

/-- Digits with the point after the first `place` of them, at least one digit on either side. -/
def positional (digits : List Char) (place : Int) : List Char :=
  let whole :=
    if place ≤ 0 then ['0']
    else digits.take place.toNat ++ List.replicate (place.toNat - digits.length) '0'
  let part :=
    if place ≤ 0 then List.replicate (-place).toNat '0' ++ digits else digits.drop place.toNat
  whole ++ '.' :: (if part = [] then ['0'] else part)

def scientific (style : DoubleStyle) (digits : List Char) (exponent : Int) : List Char :=
  let tail := digits.drop 1
  let point :=
    if tail = [] then (if style.keepsPoint then ['.', '0'] else []) else '.' :: tail
  let sign := if exponent < 0 then ['-'] else if style.signedExponent then ['+'] else []
  digits.take 1 ++ point ++ 'e' :: sign
    ++ padLeft style.exponentWidth (Nat.toDigits 10 exponent.natAbs)

/-- Trailing zeros of the digits move into the exponent. -/
def Decimal.trimmed (d : Decimal) : List Char × Int :=
  let digits := Nat.toDigits 10 d.digits
  let zeros := (digits.reverse.takeWhile (· == '0')).length
  if d.digits = 0 then (['0'], 0) else (digits.take (digits.length - zeros), d.exponent + zeros)

def Decimal.layOut (style : DoubleStyle) (d : Decimal) : List Char :=
  let (digits, exponent) := d.trimmed
  let place : Int := digits.length + exponent
  if style.leastPositional ≤ place - 1 ∧ place - 1 ≤ style.greatestPositional then
    positional digits place
  else scientific style digits (place - 1)

def Double.layOut (style : DoubleStyle) (x : Double) : String :=
  String.ofList ((if x.isNegative then ['-'] else []) ++ (x.shortest style.tie).layOut style)

def Double.inspect (x : Double) : String :=
  if x.isNaN then "NaN"
  else if x.isInfinite then (if x.isNegative then "-inf" else "inf")
  else x.layOut .inspected

/-- The text of a double to fifteen significant digits; both zeros are `0.0`. -/
def Double.toFifteen (x : Double) : String :=
  if x.isInfinite then (if x.isNegative then "-Inf" else "Inf")
  else
    String.ofList ((if x.isNegative && !x.isZero then ['-'] else [])
      ++ (x.significant 15).layOut .sqlite)

end RecordStore
