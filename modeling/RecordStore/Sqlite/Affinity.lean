import RecordStore.Number.Integer
import RecordStore.Number.Power
import RecordStore.Number.Text
import RecordStore.Sqlite.Cell
import RecordStore.Text.Blank
import RecordStore.Text.Search

namespace RecordStore.Sqlite

open Text (mentions)

/-!
# Affinities

The declared type of a column gives it an affinity, which converts what is stored in the column and
what the column is compared with. A text that looks like a number becomes one in a column for
numbers, and a number becomes its text in a column for texts. Blobs and NULL are never converted.
-/

inductive Affinity
  | text
  | numeric
  | real
  | blob
deriving DecidableEq

/-- The affinity of a declared type, by the words it mentions. -/
def Affinity.ofTypeName (name : String) : Affinity :=
  let upper := String.ofList (name.toList.map Char.toUpper)
  if mentions "INT" upper then numeric
  else if mentions "CHAR" upper || mentions "CLOB" upper || mentions "TEXT" upper then text
  else if mentions "BLOB" upper || upper == "" then blob
  else if mentions "REAL" upper || mentions "FLOA" upper || mentions "DOUB" upper then real
  else numeric

/-- A real that is an integer well inside 64 bits is stored as that integer. -/
def settle (x : Double) : Cell :=
  match x.toInt? with
  | some n => if -(twoTo 63 : Int) < n ∧ n < twoTo 63 then .integer (Int64.ofInt n) else .real x
  | none => .real x

def trimBlanks (s : List Char) : List Char :=
  ((s.dropWhile Text.isAsciiBlank).reverse.dropWhile Text.isAsciiBlank).reverse

def takeSign : List Char → Bool × List Char
  | '-' :: rest => (true, rest)
  | '+' :: rest => (false, rest)
  | s => (false, s)

def exponentOf? : List Char → Option Int
  | [] => some 0
  | e :: rest =>
    let (negative, digits) := takeSign rest
    if (e = 'e' ∨ e = 'E') ∧ digits ≠ [] ∧ digits.all Char.isDigit then
      let n : Int := Nat.ofDigitChars 10 digits 0
      some (if negative then -n else n)
    else none

/-- The number a text stands for: digits with or without a sign, a point and an exponent, between
blanks. -/
def numberOfText? (s : List Char) : Option Cell :=
  let (negative, body) := takeSign (trimBlanks s)
  let (whole, rest) := body.span Char.isDigit
  if whole ≠ [] ∧ rest = [] then
    let magnitude : Int := Nat.ofDigitChars 10 whole 0
    let n := if negative then -magnitude else magnitude
    if fitsSigned 64 n then some (.integer (Int64.ofInt n))
    else some (.real (Double.ofDecimal negative magnitude.toNat 0))
  else
    let (places, tail) :=
      match rest with
      | '.' :: after => after.span Char.isDigit
      | _ => ([], rest)
    if whole = [] ∧ places = [] then none
    else
      (exponentOf? tail).map fun exponent ↦
        .real (Double.ofDecimal negative (Nat.ofDigitChars 10 (whole ++ places) 0)
          (exponent - places.length))

namespace Affinity

def toNumber : Cell → Cell
  | .real x => settle x
  | .text s =>
    match numberOfText? s.toList with
    | some (.real x) => settle x
    | some number => number
    | none => .text s
  | c => c

def toReal (c : Cell) : Cell :=
  match toNumber c with
  | .integer n => .real (Double.ofInt n.toInt)
  | other => other

def toText : Cell → Cell
  | .integer n => .text (integerText n.toInt)
  | .real x => .text x.toFifteen
  | c => c

def apply : Affinity → Cell → Cell
  | text => toText
  | numeric => toNumber
  | real => toReal
  | blob => id

def applyForComparison : Affinity → Cell → Cell
  | real => toNumber
  | a => a.apply

@[simp] theorem apply_null (a : Affinity) : a.apply .null = .null := by
  cases a <;> rfl

@[simp] theorem apply_blob (a : Affinity) (b : List UInt8) : a.apply (.blob b) = .blob b := by
  cases a <;> rfl

end Affinity

end RecordStore.Sqlite
