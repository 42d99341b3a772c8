import RecordStore.Key.Basic
import RecordStore.Text.Case

namespace RecordStore

/-!
# Record types

A record type is described by its key and by the accessors its records show. A field may be
declared by its name alone; it then gets the accessor that is usual for its type.
-/

structure Accessor where
  name : String
  returns : FieldType
  /-- Accessors of the type itself are never fields of its records. -/
  isStatic : Bool
deriving DecidableEq

/-- The usual accessor of a field: `is…` for a truth value and `get…` for anything else. -/
def Accessor.ofField (name : String) (type : FieldType) : Accessor :=
  let verb := if type = .bool then "is" else "get"
  ⟨verb ++ Text.capitalize name, type, false⟩

structure RecordType where
  name : String
  schema : Option String
  keyColumn : String
  keyType : KeyType
  accessors : List Accessor
deriving DecidableEq

namespace RecordType

def defaultKeyColumn : String := "id"

/-- A type without accessors whose key stands in the column `id`. -/
def named (name : String) (keyType : KeyType) : RecordType :=
  ⟨name, none, defaultKeyColumn, keyType, []⟩

def withAccessor (t : RecordType) (a : Accessor) : RecordType :=
  { t with accessors := t.accessors ++ [a] }

def withField (t : RecordType) (name : String) (type : FieldType) : RecordType :=
  t.withAccessor (.ofField name type)

def identityAccessor (t : RecordType) : String :=
  "get" ++ Text.capitalize t.keyColumn

@[simp] theorem accessors_withAccessor (t : RecordType) (a : Accessor) :
    (t.withAccessor a).accessors = t.accessors ++ [a] := rfl

end RecordType

end RecordStore
