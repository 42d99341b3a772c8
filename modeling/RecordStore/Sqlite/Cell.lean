import RecordStore.Number.Power
import RecordStore.Value.Basic

namespace RecordStore.Sqlite

/-!
# Cells

What the database stores. There is no NaN among the reals. Cells are ordered with NULL before
numbers before texts before blobs; an integer and a real compare as numbers.
-/

inductive Cell
  | null
  | integer (n : Int64)
  | real (x : Double)
  | text (s : String)
  | blob (bytes : List UInt8)
deriving DecidableEq

inductive StorageClass
  | integer
  | real
  | text
  | blob
deriving DecidableEq

def StorageClass.name : StorageClass → String
  | integer => "INTEGER"
  | real => "REAL"
  | text => "TEXT"
  | blob => "BLOB"

namespace Cell

def storageClass? : Cell → Option StorageClass
  | null => none
  | integer _ => some .integer
  | real _ => some .real
  | text _ => some .text
  | blob _ => some .blob

def ofValue : Value → Cell
  | .null _ => null
  | .bool b => integer (if b then 1 else 0)
  | .i32 n => integer n.toInt64
  | .i64 n => integer n
  | .f64 x => if x.isNaN then null else real x
  | .text s => text s
  | .bytes b => blob b
  | .uuid u => blob u.bytes
  | .date d => text (String.ofList d.chars)
  | .dateTime dt => text (String.ofList (dt.chars ' '))
  | .time t => text (String.ofList t.chars)

/-- The place of a cell's kind in the order of cells. -/
def rank : Cell → Nat
  | null => 0
  | integer _ | real _ => 1
  | text _ => 2
  | blob _ => 3

/-- A number as a numerator and a positive denominator; an infinite one is beyond every other. -/
def ratio : Cell → Int × Nat
  | integer n => (n.toInt, 1)
  | real x =>
    let magnitude : Int := if x.isFinite then x.numerator else twoTo 1024
    (if x.isNegative then -magnitude else magnitude, if x.isFinite then x.denominator else 1)
  | _ => (0, 1)

def precedes (a b : Cell) : Bool :=
  match a, b with
  | text s, text t => s < t
  | blob s, blob t => s < t
  | _, _ =>
    if a.rank = b.rank then a.ratio.1 * b.ratio.2 < b.ratio.1 * a.ratio.2 else a.rank < b.rank

/-- Equality under the order of cells. NULL is equal to nothing. -/
def matchesCell (a b : Cell) : Bool :=
  a != null && b != null && !a.precedes b && !b.precedes a

@[simp] theorem null_matchesCell (c : Cell) : null.matchesCell c = false := rfl

@[simp] theorem matchesCell_null (c : Cell) : c.matchesCell null = false := by
  simp [matchesCell]

end Cell

end RecordStore.Sqlite
