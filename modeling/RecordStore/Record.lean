import RecordStore.Key.Reading
import RecordStore.Layout
import RecordStore.Value.Coerce
import RecordStore.Value.Extract

namespace RecordStore

open Text (Inspected)

/-!
# Records

An immutable record: a key and one value for each field of its layout, in the order of the layout.
-/

structure Record where
  layout : Layout
  key : Key
  values : List Value
deriving DecidableEq

namespace Layout

def valueOf (l : Layout) (values : List Value) (field : String) : Except Error Value := do
  let index ← Error.ofArgument (l.fieldIndex field)
  match values[index]? with
  | some v => pure v
  | none => throw (.illegalArgument (.unknownField field l.typeName))

/-- The value that an accessor other than the identity accessor reads. -/
def valueRead (l : Layout) (values : List Value) (accessor : String) : Except Error Value := do
  let index ← Error.ofArgument (l.accessorIndex accessor)
  match values[index]? with
  | some v => pure v
  | none => throw (.illegalArgument (.notAccessor accessor l.typeName))

end Layout

namespace Record

def typeName (r : Record) : String :=
  r.layout.typeName

def value (r : Record) (field : String) : Except Error Value :=
  r.layout.valueOf r.values field

def call (r : Record) (accessor : String) : Except Error Value :=
  if accessor = r.layout.identityAccessor then .ok r.key.toValue
  else r.layout.valueRead r.values accessor

/-- The value of a field, read at a type. -/
def get (r : Record) (field : String) (t : FieldType) : Except Error t.Contents := do
  Value.extract field t (← r.value field)

def getOption (r : Record) (field : String) (t : FieldType) :
    Except Error (Option t.Contents) := do
  Value.extractOption field t (← r.value field)

def cells (r : Record) : List (String × Value) :=
  (r.layout.keyColumn, r.key.toValue) :: r.layout.fieldNames.zip r.values

def toJson (r : Record) : Json :=
  Json.ofMembers (r.cells.map fun (column, v) ↦ (column, v.toJson))

def display (r : Record) : String :=
  r.typeName ++ "\x7b" ++ r.layout.keyColumn ++ "=" ++ r.key.display ++ "\x7d"

def inspect (r : Record) : Inspected :=
  .fields r.typeName ((r.layout.keyColumn, r.key.inspect)
    :: (r.layout.fieldNames.zip r.values).map fun (field, v) ↦ (field, v.inspect))

/-- Equality of records: same type name, same key and values that agree. -/
def agrees (r s : Record) : Bool :=
  r.typeName == s.typeName && r.key == s.key && r.values.length == s.values.length
    && (r.values.zip s.values).all fun (v, w) ↦ v.agrees w

/-- Converts the cells of a row to the types of the fields they belong to. -/
def coerceRow : List (String × FieldType) → List Value → Except Error (List Value)
  | (field, type) :: fields, v :: row => do
    match v.coerceTo type with
    | some w => pure (w :: (← coerceRow fields row))
    | none => throw (.typeMismatch field type.name v.fieldType.name)
  | _, _ => pure []

def ofRow (l : Layout) (row : List Value) : Except Error Record :=
  match row with
  | v :: rest =>
    if rest.length = l.fieldCount then do
      let key ← Key.ofValue v
      let values ← coerceRow l.fields rest
      pure ⟨l, key, values⟩
    else .error (.illegalState (.rowWidth l.typeName row.length (l.fieldCount + 1)))
  | [] => .error (.illegalState (.rowWidth l.typeName 0 (l.fieldCount + 1)))

end Record

end RecordStore
