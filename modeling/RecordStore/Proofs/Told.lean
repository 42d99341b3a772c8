import RecordStore.Proofs.Calendar.RoundTrip
import RecordStore.Record

namespace RecordStore

/-!
# What is told of values

Dates and times are printed and stored as texts, and two times of day can share a text. `told` puts
the time that the text tells in the place of any time of day and leaves everything else alone. What
is printed of a value is printed of what is told of it.
-/

namespace Value

def told : Value → Value
  | dateTime dt => dateTime dt.told
  | time t => time t.told
  | v => v

@[simp] theorem fieldType_told (v : Value) : v.told.fieldType = v.fieldType := by
  cases v <;> rfl

@[simp] theorem told_key (key : Key) : key.toValue.told = key.toValue := by
  cases key <;> rfl

@[simp] theorem toJson_told (v : Value) : v.told.toJson = v.toJson := by
  cases v with
  | dateTime dt => simp only [told, toJson, dt.chars_told]
  | time t => simp only [told, toJson, t.chars_told]
  | _ => rfl

end Value

namespace Record

def told (r : Record) : Record :=
  { r with values := r.values.map Value.told }

theorem toJson_told (r : Record) : r.told.toJson = r.toJson := by
  have hzip : r.layout.fieldNames.zip (r.values.map Value.told)
      = (r.layout.fieldNames.zip r.values).map (Prod.map id Value.told) := by
    rw [List.zip_map_right]
  simp [toJson, cells, told, hzip, Function.comp_def]

end Record

end RecordStore
