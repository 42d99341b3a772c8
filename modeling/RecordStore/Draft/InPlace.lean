import RecordStore.Draft

namespace RecordStore

/-!
# Drafts that are changed in place

The operations of a draft that stays where it is. An operation that fails leaves behind whatever the
draft has become by then.
-/

abbrev Drafting := EStateM Error Draft

namespace Drafting

def set (field : String) (v : Value) : Drafting Unit := do
  let d ← get
  if d.finalized then throw (.illegalState (.finalized d.layout.typeName d.key))
  else if field = d.layout.keyColumn then
    throw (.illegalArgument (.reassignedKey d.layout.typeName d.key))
  else
    let index ← MonadExcept.ofExcept (Error.ofArgument (d.layout.fieldIndex field))
    match d.layout.fieldType? index with
    | none => throw (.illegalArgument (.unknownField field d.layout.typeName))
    | some type =>
      match v.coerceTo type with
      | some w => modify fun d ↦ { d with values := d.values.set index w }
      | none => throw (.typeMismatch field type.name v.fieldType.name)

def call (setter : String) (v : Value) : Drafting Unit := do
  match Draft.setterField? setter with
  | some field => set field v
  | none =>
    let d ← get
    throw (.illegalArgument (.notSetter setter d.layout.typeName))

def build : Drafting Record := do
  let d ← get
  if d.finalized then throw (.illegalState (.alreadyBuilt d.layout.typeName d.key))
  else
    modify fun d ↦ { d with finalized := true }
    let d ← get
    return ⟨d.layout, d.key, d.values⟩

/-- What a draft becomes by an operation, whether that succeeds or fails. -/
def after {α : Type} (x : Drafting α) (d : Draft) : Draft :=
  match x.run d with
  | .ok _ d' => d'
  | .error _ d' => d'

end Drafting

end RecordStore
