import RecordStore.Error

namespace RecordStore

/-!
# Typed reading of values

Every field type has a type of contents. A value is read at a field type when it holds such
contents, or an integer that can be turned into them; an absent value can only be read as an
optional one.
-/

/-- What a present value of a field type holds. -/
def FieldType.Contents : FieldType → Type
  | .bool => Bool
  | .i32 => Int32
  | .i64 => Int64
  | .f64 => Double
  | .text => String
  | .bytes => List UInt8
  | .uuid => Uuid
  | .date => Date
  | .dateTime => DateTime
  | .time => Time

namespace Value

def ofContents : (t : FieldType) → t.Contents → Value
  | .bool, b => bool b
  | .i32, n => i32 n
  | .i64, n => i64 n
  | .f64, x => f64 x
  | .text, s => text s
  | .bytes, b => bytes b
  | .uuid, u => uuid u
  | .date, d => date d
  | .dateTime, dt => dateTime dt
  | .time, t => time t

def read? : (t : FieldType) → Value → Option t.Contents
  | .bool, bool b => some b
  | .i32, i32 n => some n
  | .i32, i64 n => narrow? n
  | .i64, i64 n => some n
  | .i64, i32 n => some n.toInt64
  | .f64, f64 x => some x
  | .f64, i32 n => some (Double.ofInt n.toInt)
  | .text, text s => some s
  | .bytes, bytes b => some b
  | .uuid, uuid u => some u
  | .date, date d => some d
  | .dateTime, dateTime dt => some dt
  | .time, time t => some t
  | _, _ => none

def foundName (v : Value) : String :=
  if v.isNull then "NULL" else v.fieldType.name

def extract (field : String) (t : FieldType) (v : Value) : Except Error t.Contents :=
  match read? t v with
  | some contents => .ok contents
  | none => .error (.typeMismatch field t.name v.foundName)

def extractOption (field : String) (t : FieldType) (v : Value) :
    Except Error (Option t.Contents) :=
  if v.isNull then .ok none else (extract field t v).map some

end Value

end RecordStore
