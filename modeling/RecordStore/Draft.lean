import RecordStore.Record
import RecordStore.Registry

namespace RecordStore

/-!
# Drafts

A draft is a record in the making: its fields can be set until it is built, once, into a record. A
setting is refused when the draft is finished, when it names the key or no field at all, or when the
value does not convert to the type of the field.
-/

structure Draft where
  layout : Layout
  key : Key
  values : List Value
  finalized : Bool
deriving DecidableEq

namespace Draft

def empty (l : Layout) (key : Key) : Draft :=
  ⟨l, key, l.fieldTypes.map Value.null, false⟩

def set (d : Draft) (field : String) (v : Value) : Except Error Draft :=
  if d.finalized then .error (.illegalState (.finalized d.layout.typeName d.key))
  else if field = d.layout.keyColumn then
    .error (.illegalArgument (.reassignedKey d.layout.typeName d.key))
  else do
    let index ← Error.ofArgument (d.layout.fieldIndex field)
    match d.layout.fieldType? index with
    | none => throw (.illegalArgument (.unknownField field d.layout.typeName))
    | some type =>
      match v.coerceTo type with
      | some w => pure { d with values := d.values.set index w }
      | none => throw (.typeMismatch field type.name v.fieldType.name)

/-- The field that a setter name refers to. -/
def setterField? (setter : String) : Option String :=
  if Layout.startsWith "set" setter then Layout.fieldNameOf? setter else none

def call (d : Draft) (setter : String) (v : Value) : Except Error Draft :=
  match setterField? setter with
  | some field => d.set field v
  | none => .error (.illegalArgument (.notSetter setter d.layout.typeName))

def value (d : Draft) (field : String) : Except Error Value :=
  d.layout.valueOf d.values field

/-- The value of a field, read at a type. -/
def get (d : Draft) (field : String) (t : FieldType) : Except Error t.Contents := do
  Value.extract field t (← d.value field)

def getOption (d : Draft) (field : String) (t : FieldType) :
    Except Error (Option t.Contents) := do
  Value.extractOption field t (← d.value field)

/-- Finishes the draft and returns the record together with the finished draft. -/
def build (d : Draft) : Except Error (Record × Draft) :=
  if d.finalized then .error (.illegalState (.alreadyBuilt d.layout.typeName d.key))
  else .ok (⟨d.layout, d.key, d.values⟩, { d with finalized := true })

def setAll (d : Draft) (settings : List (String × Value)) : Except Error Draft :=
  settings.foldlM (fun d (field, v) ↦ d.set field v) d

end Draft

def Record.modify (r : Record) : Draft :=
  ⟨r.layout, r.key, r.values, false⟩

def Record.template (r : Record) (key : Key) : Except Error Draft := do
  Error.ofArgument (r.layout.checkKey key)
  pure ⟨r.layout, key, r.values, false⟩

namespace Registry

def newDraft (r : Registry) (typeName : String) (key : Key) : Except Error Draft := do
  let l ← Error.ofArgument (r.require typeName "new_object")
  Error.ofArgument (l.checkKey key)
  pure (.empty l key)

def newDraftWith (r : Registry) (typeName : String) (key : Key)
    (settings : List (String × Value)) : Except Error Draft := do
  let d ← r.newDraft typeName key
  d.setAll settings

def newDrafts (r : Registry) (typeName : String) (keys : List Key) : Except Error (List Draft) :=
  keys.mapM (r.newDraft typeName)

end Registry

def Record.templates (r : Record) (keys : List Key) : Except Error (List Draft) :=
  keys.mapM r.template

end RecordStore
