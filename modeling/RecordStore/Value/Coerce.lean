import RecordStore.Value.Basic

namespace RecordStore

namespace Value

/-!
# Converting a value to a declared type

An absent value takes the new hint, integers widen, narrow when they fit, and 32-bit ones become
doubles. Any other value keeps its type or is refused.
-/

def coerceTo (v : Value) (target : FieldType) : Option Value :=
  match v, target with
  | null _, t => some (null t)
  | i32 n, .i64 => some (i64 n.toInt64)
  | i64 n, .i32 => (narrow? n).map i32
  | i32 n, .f64 => some (f64 (Double.ofInt n.toInt))
  | w, t => if w.fieldType = t then some w else none

@[simp] theorem coerceTo_null (hint target : FieldType) :
    (null hint).coerceTo target = some (null target) := by
  cases target <;> rfl

end Value

end RecordStore
