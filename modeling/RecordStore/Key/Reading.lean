import RecordStore.Error

namespace RecordStore

/-!
# Keys from text and from cells
-/

def KeyType.read (t : KeyType) (raw : String) : Except ArgumentFault Key :=
  match t with
  | .int =>
    match readInteger raw.toList with
    | .ok n => .ok (.int n)
    | .error reason => .error (.notInteger raw reason)
  | .text => .ok (.text raw)
  | .uuid =>
    match Uuid.read raw with
    | .ok u => .ok (.uuid u)
    | .error reason => .error (.notUuid raw reason)

def Key.ofValue (v : Value) : Except Error Key :=
  match Key.ofValue? v with
  | some key => .ok key
  | none => .error (.illegalState (.unusableKey v))

@[simp] theorem Key.ofValue_toValue (k : Key) : Key.ofValue k.toValue = .ok k := by
  simp [Key.ofValue]

end RecordStore
