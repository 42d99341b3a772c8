import RecordStore.Calendar
import RecordStore.Number.Power
import RecordStore.Uuid

namespace RecordStore

/-!
# Values and their types

A `Value` is what a cell of a row holds. Every value has a `FieldType`; an absent one carries the
type it stands in for.
-/

inductive FieldType
  | bool
  | i32
  | i64
  | f64
  | text
  | bytes
  | uuid
  | date
  | dateTime
  | time
deriving DecidableEq

namespace FieldType

def name : FieldType → String
  | bool => "bool"
  | i32 => "i32"
  | i64 => "i64"
  | f64 => "f64"
  | text => "text"
  | bytes => "bytes"
  | uuid => "uuid"
  | date => "date"
  | dateTime => "date_time"
  | time => "time"

def all : List FieldType :=
  [bool, i32, i64, f64, text, bytes, uuid, date, dateTime, time]

def ofName? (s : String) : Option FieldType :=
  all.find? (·.name == s)

end FieldType

inductive Value
  | null (hint : FieldType)
  | bool (b : Bool)
  | i32 (n : Int32)
  | i64 (n : Int64)
  | f64 (x : Double)
  | text (s : String)
  | bytes (b : List UInt8)
  | uuid (u : Uuid)
  | date (d : Date)
  | dateTime (dt : DateTime)
  | time (t : Time)
deriving DecidableEq

namespace Value

def isNull : Value → Bool
  | null _ => true
  | _ => false

def fieldType : Value → FieldType
  | null hint => hint
  | bool _ => .bool
  | i32 _ => .i32
  | i64 _ => .i64
  | f64 _ => .f64
  | text _ => .text
  | bytes _ => .bytes
  | uuid _ => .uuid
  | date _ => .date
  | dateTime _ => .dateTime
  | time _ => .time

/-- A 64-bit integer that fits in 32 bits. -/
def narrow? (n : Int64) : Option Int32 :=
  if fitsSigned 32 n.toInt then some (Int32.ofInt n.toInt) else none

/-- Equality of values, doubles being compared as numbers. -/
def agrees : Value → Value → Bool
  | f64 x, f64 y => x.sameNumber y
  | v, w => v == w

end Value

end RecordStore
