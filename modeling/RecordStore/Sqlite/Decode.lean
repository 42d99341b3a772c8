import RecordStore.Calendar.Reading
import RecordStore.Number.Integer
import RecordStore.Sqlite.Cell

namespace RecordStore.Sqlite

/-!
# Reading cells as values

A present cell is read as a value of a wanted type when its storage class is one of those allowed
for the type and its content is that of such a value. NULL is read as the absent value of any type.
-/

inductive Undecodable
  | mismatch (wanted : FieldType) (found : StorageClass)
  | outOfRange (fault : IntegerFault)
  | notSixteen (found : Nat)
  | notDate (fault : Calendar.Fault)
  | notDateTime (text : String)
  | notTime (text : String)
deriving DecidableEq

def allowedClasses : FieldType → List StorageClass
  | .bool | .i32 | .i64 => [.integer]
  | .f64 => [.real]
  | .text | .date | .time => [.text]
  | .bytes | .uuid => [.text, .blob]
  | .dateTime => [.text, .integer]

/-- How a mismatch names the wanted type. -/
def hostName : FieldType → String
  | .bool => "bool"
  | .i32 => "i32"
  | .i64 => "i64"
  | .f64 => "f64"
  | .text => "alloc::string::String"
  | .bytes => "alloc::vec::Vec<u8>"
  | .uuid => "uuid::Uuid"
  | .date => "chrono::naive::date::NaiveDate"
  | .dateTime => "chrono::naive::datetime::NaiveDateTime"
  | .time => "chrono::naive::time::NaiveTime"

/-- How a mismatch names the column type that would fit. -/
def columnName : FieldType → String
  | .bool => "BOOLEAN"
  | .i32 | .i64 => "INTEGER"
  | .f64 => "REAL"
  | .text => "TEXT"
  | .bytes | .uuid => "BLOB"
  | .date => "DATE"
  | .dateTime => "DATETIME"
  | .time => "TIME"

def Undecodable.message : Undecodable → String
  | mismatch wanted found =>
    "mismatched types; Rust type `core::option::Option<" ++ hostName wanted ++ ">` (as SQL type `"
      ++ columnName wanted ++ "`) is not compatible with SQL type `" ++ found.name ++ "`"
  | outOfRange fault => fault.message
  | notSixteen found => s!"invalid length: expected 16 bytes, found {found}"
  | notDate fault => fault.message
  | notDateTime text => "invalid datetime: " ++ text
  | notTime text => "invalid time: " ++ text

namespace Cell

def contentBytes : Cell → List UInt8
  | text s => s.toUTF8.toList
  | blob b => b
  | _ => []

def contentText : Cell → String
  | integer n => integerText n.toInt
  | text s => s
  | _ => ""

def narrow (n : Int64) : Except Undecodable Value :=
  match Value.narrow? n with
  | some i => .ok (.i32 i)
  | none => .error (.outOfRange (if n < 0 then .tooSmall else .tooLarge))

def decodeUuid (bytes : List UInt8) : Except Undecodable Value :=
  match Uuid.ofBytes? bytes with
  | some u => .ok (.uuid u)
  | none => .error (.notSixteen bytes.length)

/-- A moment is written as a text or counted in seconds. -/
def decodeDateTime (c : Cell) : Except Undecodable Value :=
  let moment :=
    match c with
    | integer n => DateTime.ofUnixSeconds? n.toInt
    | _ => DateTime.read? c.contentText
  match moment with
  | some dt => .ok (.dateTime dt)
  | none => .error (.notDateTime c.contentText)

def decodeAllowed (t : FieldType) (c : Cell) : Except Undecodable Value :=
  match t, c with
  | .bool, integer n => .ok (.bool (n != 0))
  | .i32, integer n => narrow n
  | .i64, integer n => .ok (.i64 n)
  | .f64, real x => .ok (.f64 x)
  | .text, text s => .ok (.text s)
  | .bytes, _ => .ok (.bytes c.contentBytes)
  | .uuid, _ => decodeUuid c.contentBytes
  | .date, text s =>
    match Date.read s with
    | .ok d => .ok (.date d)
    | .error fault => .error (.notDate fault)
  | .dateTime, _ => decodeDateTime c
  | .time, text s =>
    match Time.read? s with
    | some time => .ok (.time time)
    | none => .error (.notTime s)
  | t, _ => .ok (.null t)

def decode (t : FieldType) (c : Cell) : Except Undecodable Value :=
  match c.storageClass? with
  | none => .ok (.null t)
  | some found =>
    if found ∈ allowedClasses t then c.decodeAllowed t else .error (.mismatch t found)

@[simp] theorem decode_null (t : FieldType) : null.decode t = .ok (.null t) := rfl

end Cell

end RecordStore.Sqlite
