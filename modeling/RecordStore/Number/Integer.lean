import RecordStore.Number.Power

namespace RecordStore

/-!
# Written 64-bit integers

An optional sign and at least one digit. Reading goes from left to right and stops at the first
character that is no digit or that takes the number out of range.
-/

inductive IntegerFault
  | empty
  | invalidDigit
  | tooLarge
  | tooSmall
deriving DecidableEq

def IntegerFault.message : IntegerFault → String
  | .empty => "cannot parse integer from empty string"
  | .invalidDigit => "invalid digit found in string"
  | .tooLarge => "number too large to fit in target type"
  | .tooSmall => "number too small to fit in target type"

/-- Reads digits on top of `n`, refusing with `overflow` what exceeds `limit`. -/
def readDigits (limit : Nat) (overflow : IntegerFault) (n : Nat) :
    List Char → Except IntegerFault Nat
  | [] => .ok n
  | c :: rest =>
    if c.isDigit then
      let next := 10 * n + (c.toNat - '0'.toNat)
      if next ≤ limit then readDigits limit overflow next rest else .error overflow
    else .error .invalidDigit

def readInteger : List Char → Except IntegerFault Int64
  | [] => .error .empty
  | ['-'] | ['+'] => .error .invalidDigit
  | '-' :: digits => do
    let n ← readDigits (twoTo 63) .tooSmall 0 digits
    pure (Int64.ofInt (-(n : Int)))
  | '+' :: digits => do
    let n ← readDigits (twoTo 63 - 1) .tooLarge 0 digits
    pure (Int64.ofInt n)
  | digits => do
    let n ← readDigits (twoTo 63 - 1) .tooLarge 0 digits
    pure (Int64.ofInt n)

def integerChars (n : Int) : List Char :=
  (if n < 0 then ['-'] else []) ++ Nat.toDigits 10 n.natAbs

def integerText (n : Int) : String :=
  String.ofList (integerChars n)

end RecordStore
