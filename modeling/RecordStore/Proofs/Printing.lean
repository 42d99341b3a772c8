import RecordStore.Proofs.Identity
import RecordStore.Proofs.Told
import RecordStore.Proofs.Uuid

namespace RecordStore

/-!
# Printed records

The object that a record is printed as holds each column of the record once. Apart from doubles,
whose infinities and NaNs are all printed as null, what is told of a value is determined by its type
and what is printed of it, and so a record without doubles is determined by its layout and its object,
up to leap seconds inside a minute.
-/

theorem text_ofList_inj {s t : List Char} :
    Json.text (String.ofList s) = Json.text (String.ofList t) ↔ s = t := by
  rw [Json.text.injEq, String.ofList_inj]

namespace Value

/-- What is told of a value that is no double is determined by its type and what is printed of it. -/
theorem told_of_toJson {v w : Value} (htype : v.fieldType = w.fieldType)
    (hdouble : v.fieldType ≠ .f64) (h : v.toJson = w.toJson) : v.told = w.told := by
  cases v <;> cases w <;> simp only [fieldType, reduceCtorEq, toJson] at htype h
  case null.null => rw [htype]
  case null.f64 => exact absurd htype hdouble
  case f64.null | f64.f64 => exact absurd rfl hdouble
  case bool.bool => rw [Json.bool.inj h]
  case i32.i32 => rw [Int32.toInt_inj.mp (Json.int.inj h)]
  case i64.i64 => rw [Int64.toInt_inj.mp (Json.int.inj h)]
  case text.text => rw [Json.text.inj h]
  case bytes.bytes =>
    have hinjective : Function.Injective fun byte : UInt8 ↦ Json.int byte.toNat := by
      intro byte byte' hbyte
      exact UInt8.toNat_inj.mp (Int.ofNat.inj (Json.int.inj hbyte))
    rw [hinjective.list_map (Json.array.inj h)]
  case uuid.uuid => rw [Uuid.toText_injective (Json.text.inj h)]
  case date.date => rw [Date.chars_injective (text_ofList_inj.mp h)]
  case dateTime.dateTime => rw [told, told, (DateTime.chars_inj rfl).mp (text_ofList_inj.mp h)]
  case time.time => rw [told, told, Time.chars_inj.mp (text_ofList_inj.mp h)]

theorem toJson_inj {v w : Value} (htype : v.fieldType = w.fieldType) (hdouble : v.fieldType ≠ .f64) :
    v.toJson = w.toJson ↔ v.told = w.told := by
  refine ⟨told_of_toJson htype hdouble, fun htold ↦ ?_⟩
  rw [← v.toJson_told, htold, w.toJson_told]

end Value

theorem KeyType.fieldType_ne_f64 (t : KeyType) : t.fieldType ≠ .f64 := by
  cases t <;> exact nofun

theorem Key.toJson_inj {key key' : Key} (htype : key.keyType = key'.keyType)
    (h : key.toValue.toJson = key'.toValue.toJson) : key = key' := by
  have hvalue : key.toValue = key'.toValue := by
    rw [← Value.told_key key, ← Value.told_key key']
    apply Value.told_of_toJson _ _ h
    · rw [fieldType_toValue, fieldType_toValue, htype]
    · rw [fieldType_toValue]
      exact key.keyType.fieldType_ne_f64
  have hkey := ofValue?_toValue key
  rw [hvalue, ofValue?_toValue] at hkey
  exact (Option.some.inj hkey).symm

namespace Record

/-! ## The object of a record -/

section

variable {r : Record} (hsound : r.layout.Sound) (hlength : r.values.length = r.layout.fieldCount)

/-- The columns of a record with what is printed of them, in the order of the record. -/
def printedCells (r : Record) : List (String × Json) :=
  r.cells.map fun (column, v) ↦ (column, v.toJson)

theorem toJson_eq (r : Record) : r.toJson = .object (Ordered.ofList r.printedCells) := rfl

theorem mem_printedCells {column : String} {v : Value} (h : (column, v) ∈ r.cells) :
    (column, v.toJson) ∈ r.printedCells :=
  List.mem_map_of_mem (f := fun (column, v) ↦ (column, v.toJson)) h

include hlength

theorem map_fst_printedCells : r.printedCells.map Prod.fst = r.layout.columns := by
  have hnames : (r.layout.fieldNames.zip r.values).map Prod.fst = r.layout.fieldNames :=
    List.map_fst_zip (by rw [Layout.length_fieldNames, hlength])
  have hcells : r.printedCells.map Prod.fst = r.cells.map Prod.fst := by
    rw [printedCells, List.map_map]
    rfl
  rw [hcells, cells, Layout.columns, List.map_cons, hnames]

include hsound

theorem nodup_printedCells : (r.printedCells.map Prod.fst).Nodup := by
  rw [map_fst_printedCells hlength]
  exact hsound.nodup_columns

theorem member?_toJson {column : String} {v : Value} (h : (column, v) ∈ r.cells) :
    r.toJson.member? column = some v.toJson := by
  rw [toJson_eq, Json.member?]
  apply Ordered.lookup_of_mem (Ordered.ascending_ofList _).nodup
  exact (Ordered.mem_ofList (nodup_printedCells hsound hlength)).mpr (mem_printedCells h)

end

theorem key_mem_cells (r : Record) : (r.layout.keyColumn, r.key.toValue) ∈ r.cells :=
  List.mem_cons_self

theorem value_mem_cells {r : Record} {i : Nat} (hname : i < r.layout.fieldNames.length)
    (hvalue : i < r.values.length) : (r.layout.fieldNames[i], r.values[i]) ∈ r.cells := by
  apply List.mem_cons_of_mem
  apply List.mem_iff_getElem.mpr
  exact ⟨i, by rw [List.length_zip]; omega, List.getElem_zip⟩

/-- Without doubles what is told of a record is determined by its layout and its object. -/
theorem told_of_toJson {r s : Record} (hsound : r.layout.Sound) (hlayout : s.layout = r.layout)
    (hdoubles : .f64 ∉ r.layout.fieldTypes) (hr : r.Keyed ∧ r.Aligned) (hs : s.Keyed ∧ s.Aligned)
    (h : r.toJson = s.toJson) : r.told = s.told := by
  obtain ⟨hrkeyed, hraligned⟩ := hr
  obtain ⟨hskeyed, hsaligned⟩ := hs
  obtain ⟨l, key, values⟩ := r
  obtain ⟨l', key', values'⟩ := s
  obtain rfl : l' = l := hlayout
  have hprinted {column : String} {v v' : Value} (hv : (column, v) ∈ (⟨l', key, values⟩ : Record).cells)
      (hv' : (column, v') ∈ (⟨l', key', values'⟩ : Record).cells) : v.toJson = v'.toJson := by
    have hmember := member?_toJson hsound hraligned.length_values hv
    rw [h, member?_toJson (r := ⟨l', key', values'⟩) hsound hsaligned.length_values hv'] at hmember
    exact (Option.some.inj hmember).symm
  have hkey : key = key' := by
    apply Key.toJson_inj (hrkeyed.trans hskeyed.symm)
    exact hprinted (key_mem_cells ⟨l', key, values⟩) (key_mem_cells ⟨l', key', values'⟩)
  have htypes : values.map Value.fieldType = values'.map Value.fieldType :=
    hraligned.trans hsaligned.symm
  have hlength : values.length = values'.length := by simpa using congrArg List.length htypes
  have hvalues : values.map Value.told = values'.map Value.told := by
    apply List.ext_getElem (by rw [List.length_map, List.length_map, hlength])
    intro i hi hi'
    rw [List.length_map] at hi hi'
    rw [List.getElem_map, List.getElem_map]
    have hname : i < l'.fieldNames.length := by
      rw [Layout.length_fieldNames, ← hraligned.length_values]
      exact hi
    apply Value.told_of_toJson
    · have htype := List.getElem_of_eq htypes (by rwa [List.length_map])
      rwa [List.getElem_map, List.getElem_map] at htype
    · intro hdouble
      apply hdoubles
      rw [← hraligned, List.mem_map]
      exact ⟨values[i], List.getElem_mem hi, hdouble⟩
    · exact hprinted (value_mem_cells hname hi) (value_mem_cells hname hi')
  rw [told, told, hkey, hvalues]

end Record

end RecordStore
