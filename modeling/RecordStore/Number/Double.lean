import RecordStore.Number.Power

namespace RecordStore

/-!
# Double-precision numbers

A `Double` is its 64-bit interchange encoding. A finite one is `± mantissa · 2 ^ power` with a
53-bit mantissa; rounding a quotient to the nearest double is exact integer arithmetic, a tie going
to the even mantissa.
-/

structure Double where
  bits : UInt64
deriving DecidableEq

namespace Double

def isNegative (x : Double) : Bool :=
  twoTo 63 ≤ x.bits.toNat

def exponentField (x : Double) : Nat :=
  x.bits.toNat / twoTo 52 % 2048

def fraction (x : Double) : Nat :=
  x.bits.toNat % twoTo 52

def isNaN (x : Double) : Bool :=
  x.exponentField == 2047 && x.fraction != 0

def isInfinite (x : Double) : Bool :=
  x.exponentField == 2047 && x.fraction == 0

def isFinite (x : Double) : Bool :=
  x.exponentField != 2047

def isZero (x : Double) : Bool :=
  x.exponentField == 0 && x.fraction == 0

def mantissa (x : Double) : Nat :=
  if x.exponentField = 0 then x.fraction else x.fraction + twoTo 52

def power (x : Double) : Int :=
  if x.exponentField = 0 then -1074 else (x.exponentField : Int) - 1075

/-- The magnitude of a finite double as a quotient of natural numbers. -/
def numerator (x : Double) : Nat :=
  x.mantissa * twoTo x.power.toNat

def denominator (x : Double) : Nat :=
  twoTo (-x.power).toNat

/-- Equality of numbers: the two zeros are equal and a NaN equals nothing. -/
def sameNumber (x y : Double) : Bool :=
  !x.isNaN && !y.isNaN && (x.bits == y.bits || (x.isZero && y.isZero))

def ofParts (negative : Bool) (magnitude : Nat) : Double :=
  ⟨UInt64.ofNat (magnitude + if negative then twoTo 63 else 0)⟩

def infiniteMagnitude : Nat :=
  2047 * twoTo 52

end Double

/-- The nearest integer to a quotient, a tie going to the even one. -/
def roundEven (num den : Nat) : Nat :=
  let quotient := num / den
  let rest := 2 * (num % den)
  if rest < den then quotient
  else if den < rest then quotient + 1
  else quotient + quotient % 2

namespace Double

/-- The power of two that gives `num / den` a 53-bit mantissa, or the least power there is. -/
def scaleOf (num den : Nat) : Int :=
  let rough : Int := (num.log2 : Int) - den.log2 - 53
  let fits :=
    if 0 ≤ rough then num < den * twoTo (53 + rough.toNat)
    else num * twoTo (-rough).toNat < den * twoTo 53
  max (if fits then rough else rough + 1) (-1074)

/-- The encoding of the double nearest to `num / den`, without its sign. -/
def magnitudeOf (num den : Nat) : Nat :=
  if num = 0 then 0
  else
    let scale := scaleOf num den
    let mantissa := roundEven (num * twoTo (-scale).toNat) (den * twoTo scale.toNat)
    min ((scale + 1074).toNat * twoTo 52 + mantissa) infiniteMagnitude

/-- The double nearest to `± num / den`. -/
def ofQuotient (negative : Bool) (num den : Nat) : Double :=
  ofParts negative (magnitudeOf num den)

def ofInt (n : Int) : Double :=
  ofQuotient (n < 0) n.natAbs 1

/-- The double nearest to `± digits · 10 ^ exponent`. Exponents so far out that the result is zero
or infinite are answered without the power. -/
def ofDecimal (negative : Bool) (digits : Nat) (exponent : Int) : Double :=
  if digits = 0 || exponent + (digits.log2 / 3 + 1 : Nat) < -330 then ofParts negative 0
  else if 310 < exponent then ofParts negative infiniteMagnitude
  else ofQuotient negative (digits * tenTo exponent.toNat) (tenTo (-exponent).toNat)

/-- The integer a finite double stands for, if it stands for one. -/
def toInt? (x : Double) : Option Int :=
  if x.isFinite && x.numerator % x.denominator == 0 then
    let magnitude : Int := (x.numerator / x.denominator : Nat)
    some (if x.isNegative then -magnitude else magnitude)
  else none

end Double

end RecordStore
