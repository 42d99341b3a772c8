import RecordStore.Value.Text

namespace RecordStore

open Text (Inspected quoted)

/-!
# Keys

A `Key` identifies a record within its type. Keys are ordered with integers before texts before
identifiers.
-/

inductive KeyType
  | int
  | text
  | uuid
deriving DecidableEq

inductive Key
  | int (n : Int64)
  | text (s : String)
  | uuid (u : Uuid)
deriving DecidableEq

namespace KeyType

def name : KeyType → String
  | int => "int"
  | text => "text"
  | uuid => "uuid"

def tag : KeyType → String
  | int => "Int"
  | text => "Text"
  | uuid => "Uuid"

def all : List KeyType := [int, text, uuid]

def ofName? (s : String) : Option KeyType :=
  all.find? (·.name == s)

def fieldType : KeyType → FieldType
  | int => .i64
  | text => .text
  | uuid => .uuid

end KeyType

namespace Key

def keyType : Key → KeyType
  | int _ => .int
  | text _ => .text
  | uuid _ => .uuid

def toValue : Key → Value
  | int n => .i64 n
  | text s => .text s
  | uuid u => .uuid u

def ofValue? : Value → Option Key
  | .i64 n => some (int n)
  | .i32 n => some (int n.toInt64)
  | .text s => some (text s)
  | .uuid u => some (uuid u)
  | _ => none

def display : Key → String
  | int n => integerText n.toInt
  | text s => quoted s
  | uuid u => u.toText

def inspect : Key → Inspected
  | int n => .apply "Int" (.leaf (integerChars n.toInt))
  | text s => .apply "Text" (.ofText (quoted s))
  | uuid u => .apply "Uuid" (.leaf u.chars)

/-- Keys between brackets, as a message lists them. -/
def listText (keys : List Key) : String :=
  "[" ++ String.intercalate ", " (keys.map display) ++ "]"

def precedes : Key → Key → Bool
  | int n, int m => n < m
  | int _, _ => true
  | text _, int _ => false
  | text s, text t => s < t
  | text _, uuid _ => true
  | uuid u, uuid v => u.value < v.value
  | uuid _, _ => false

/-- Inserts a key into an ascending list, in front of its equals. -/
def insertSorted (key : Key) : List Key → List Key
  | [] => [key]
  | k :: rest => if k.precedes key then k :: insertSorted key rest else key :: k :: rest

def sorted (keys : List Key) : List Key :=
  keys.foldr insertSorted []

@[simp] theorem ofValue?_toValue (k : Key) : ofValue? k.toValue = some k := by
  cases k <;> rfl

@[simp] theorem fieldType_toValue (k : Key) : k.toValue.fieldType = k.keyType.fieldType := by
  cases k <;> rfl

@[simp] theorem keyType_int (n : Int64) : (int n).keyType = .int := rfl

@[simp] theorem keyType_text (s : String) : (text s).keyType = .text := rfl

@[simp] theorem keyType_uuid (u : Uuid) : (uuid u).keyType = .uuid := rfl

end Key

end RecordStore
