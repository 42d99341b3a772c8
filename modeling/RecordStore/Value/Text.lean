import RecordStore.Json.Printer
import RecordStore.Text.Inspected
import RecordStore.Text.Quoted
import RecordStore.Value.Basic

namespace RecordStore

open Text (Inspected quoted)

/-!
# How values are written

`toJson` renders a value for output, `display` names it in a message and `inspect` shows its type
and content.
-/

def FieldType.tag : FieldType → String
  | bool => "Bool"
  | i32 => "I32"
  | i64 => "I64"
  | f64 => "F64"
  | text => "Text"
  | bytes => "Bytes"
  | uuid => "Uuid"
  | date => "Date"
  | dateTime => "DateTime"
  | time => "Time"

namespace Value

def toJson : Value → Json
  | null _ => .null
  | bool b => .bool b
  | i32 n => .int n.toInt
  | i64 n => .int n.toInt
  | f64 x => .ofDouble x
  | text s => .text s
  | bytes b => .array (b.map fun byte ↦ .int byte.toNat)
  | uuid u => .text u.toText
  | date d => .text (String.ofList d.chars)
  | dateTime dt => .text (String.ofList (dt.chars 'T'))
  | time t => .text (String.ofList t.chars)

def display : Value → String
  | null _ => "NULL"
  | text s => quoted s
  | bytes b => s!"<{b.length} bytes>"
  | v => v.toJson.compact

/-- The content of a value, without its type. -/
def inspectContent : Value → Inspected
  | null hint => .ofText hint.tag
  | bool b => .leaf (Json.boolChars b)
  | i32 n => .leaf (integerChars n.toInt)
  | i64 n => .leaf (integerChars n.toInt)
  | f64 x => .ofText x.inspect
  | text s => .ofText (quoted s)
  | bytes b => .list (b.map fun byte ↦ .leaf (integerChars byte.toNat))
  | uuid u => .leaf u.chars
  | date d => .leaf d.chars
  | dateTime dt => .leaf (dt.chars 'T')
  | time t => .leaf t.chars

def inspect (v : Value) : Inspected :=
  .apply (if v.isNull then "Null" else v.fieldType.tag) v.inspectContent

end Value

end RecordStore
