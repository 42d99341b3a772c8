import RecordStore.Identifier
import RecordStore.RecordType

namespace RecordStore

/-!
# Layouts

The layout of a record type fixes the place of every field: the fields are the `get…` and `is…`
accessors of its records other than the identity accessor, in ascending order of their names.
Nothing in a layout depends on the order in which the accessors were declared.
-/

structure Layout where
  typeName : String
  schema : Option String
  keyColumn : String
  keyType : KeyType
  fields : List (String × FieldType)
deriving DecidableEq

namespace Layout

def verbs : List String := ["get", "set", "is"]

/-- What follows the first verb that a name starts with. -/
def afterVerb? (name : List Char) : Option (List Char) :=
  verbs.findSome? fun verb ↦ verb.toList.isPrefixOf? name

def fieldNameOf? (name : String) : Option String :=
  match afterVerb? name.toList with
  | some (c :: rest) => some (String.ofList (Text.decapitalizeChars (c :: rest)))
  | _ => none

def startsWith (verb name : String) : Bool :=
  verb.toList.isPrefixOf name.toList

def contribution? (t : RecordType) (a : Accessor) : Option (String × FieldType) :=
  if a.isStatic || a.name == t.identityAccessor then none
  else if startsWith "get" a.name || startsWith "is" a.name then
    (fieldNameOf? a.name).map fun field ↦ (field, a.returns)
  else none

/-- Adds the field of one accessor to the fields found so far. -/
def addAccessor (t : RecordType) (fields : List (String × FieldType)) (a : Accessor) :
    Except ArgumentFault (List (String × FieldType)) :=
  match contribution? t a with
  | none => .ok fields
  | some (field, type) => do
    Identifier.check field
    if field = t.keyColumn then throw (.mapsOntoKey a.name t.name field)
    match fields.lookup field with
    | some declared =>
      if declared = type then pure fields
      else throw (.conflictingField field t.name declared type)
    | none => pure (Ordered.insert field type fields)

def resolve (t : RecordType) : Except ArgumentFault Layout := do
  Identifier.check t.name
  if let some schema := t.schema then Identifier.check schema
  Identifier.check t.keyColumn
  let fields ← t.accessors.foldlM (addAccessor t) []
  pure ⟨t.name, t.schema, t.keyColumn, t.keyType, fields⟩

def identityAccessor (l : Layout) : String :=
  "get" ++ Text.capitalize l.keyColumn

def fieldNames (l : Layout) : List String :=
  l.fields.map Prod.fst

def fieldTypes (l : Layout) : List FieldType :=
  l.fields.map Prod.snd

def fieldCount (l : Layout) : Nat :=
  l.fields.length

def fieldType? (l : Layout) (index : Nat) : Option FieldType :=
  l.fieldTypes[index]?

def fieldIndex (l : Layout) (field : String) : Except ArgumentFault Nat :=
  match l.fieldNames.findIdx? (· == field) with
  | some index => .ok index
  | none => .error (.unknownField field l.typeName)

def accessorIndex (l : Layout) (accessor : String) : Except ArgumentFault Nat :=
  match fieldNameOf? accessor with
  | some field => l.fieldIndex field
  | none => .error (.notAccessor accessor l.typeName)

def checkKey (l : Layout) (key : Key) : Except ArgumentFault Unit :=
  if key.keyType = l.keyType then .ok () else .error (.wrongKeyType l.typeName l.keyType key)

/-- The types of a full row: the key's and then every field's. -/
def rowShape (l : Layout) : List FieldType :=
  l.keyType.fieldType :: l.fieldTypes

def columns (l : Layout) : List String :=
  l.keyColumn :: l.fieldNames

@[simp] theorem length_fieldNames (l : Layout) : l.fieldNames.length = l.fieldCount := by
  simp [fieldNames, fieldCount]

@[simp] theorem length_fieldTypes (l : Layout) : l.fieldTypes.length = l.fieldCount := by
  simp [fieldTypes, fieldCount]

@[simp] theorem length_rowShape (l : Layout) : l.rowShape.length = l.fieldCount + 1 := by
  simp [rowShape]

@[simp] theorem length_columns (l : Layout) : l.columns.length = l.fieldCount + 1 := by
  simp [columns]

end Layout

end RecordStore
