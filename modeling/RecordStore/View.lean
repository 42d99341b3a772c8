import RecordStore.Draft

namespace RecordStore

/-!
# Typed views

A view presents the records of one type; it declares the type it expects them to have.
-/

structure View where
  typeName : String
  declared : RecordType

namespace Registry

/-- Registers the type behind a view, which must carry the name of the view. -/
def registerView (r : Registry) (v : View) : Except ArgumentFault Layout × Registry :=
  if v.declared.name = v.typeName then r.register v.declared
  else (.error (.misnamedView v.typeName v.declared.name), r)

end Registry

def Record.viewAs (r : Record) (v : View) : Except Error Record :=
  if r.typeName = v.typeName then .ok r
  else .error (.illegalArgument (.notViewable r.typeName r.key v.typeName))

end RecordStore
