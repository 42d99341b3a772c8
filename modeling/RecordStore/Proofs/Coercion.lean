import Mathlib.Algebra.Ring.Int.Defs
import RecordStore.Proofs.Drafts

namespace RecordStore

/-!
# Converting and reading agree

A value is converted to the type of a field when it is stored, and read at that type afterwards. Each
of the two goes by a table of its own. They accept the same present values, and a conversion leaves
the value made of the contents that are read.
-/

/-! ## Widths of integers -/

theorem fitsSigned_iff {bits : Nat} {n : Int} :
    fitsSigned bits n = true ↔ -(2 : Int) ^ (bits - 1) ≤ n ∧ n < 2 ^ (bits - 1) := by
  have htwo : (twoTo (bits - 1) : Int) = 2 ^ (bits - 1) := by simp [twoTo]
  rw [fitsSigned, Bool.and_eq_true, decide_eq_true_eq, decide_eq_true_eq, htwo]

namespace Value

theorem narrow?_eq_some {n : Int64} {m : Int32} : narrow? n = some m ↔ m.toInt = n.toInt := by
  unfold narrow?
  split
  · next h =>
    obtain ⟨hlow, hhigh⟩ := fitsSigned_iff.mp h
    rw [Option.some.injEq, ← Int32.toInt_inj, Int32.toInt_ofInt_of_le hlow hhigh]
    exact eq_comm
  · next h =>
    refine iff_of_false nofun fun heq ↦ h (fitsSigned_iff.mpr ?_)
    rw [← heq]
    exact ⟨m.le_toInt, m.toInt_lt⟩

theorem isSome_narrow? {n : Int64} :
    (narrow? n).isSome = true ↔ -(2 : Int) ^ 31 ≤ n.toInt ∧ n.toInt < 2 ^ 31 := by
  rw [← @fitsSigned_iff 32]
  unfold narrow?
  split
  · next h => exact iff_of_true rfl h
  · next h => exact iff_of_false nofun h

theorem narrow?_toInt64 (n : Int32) : narrow? n.toInt64 = some n :=
  narrow?_eq_some.mpr n.toInt_toInt64.symm

/-! ## The two tables -/

section

variable {v w : Value} {type : FieldType} {field : String} {x : type.Contents}

@[simp] theorem isNull_ofContents (type : FieldType) (x : type.Contents) :
    (ofContents type x).isNull = false := by
  cases type <;> rfl

@[simp] theorem fieldType_ofContents (type : FieldType) (x : type.Contents) :
    (ofContents type x).fieldType = type := by
  cases type <;> rfl

/-- A present value is converted exactly if it can be read, to the value of the contents read. -/
theorem coerceTo_of_present (h : v.isNull = false) (type : FieldType) :
    v.coerceTo type = (read? type v).map (ofContents type) := by
  cases v with
  | null hint => cases h
  | _ => cases type <;> rfl

theorem read?_of_null (h : v.isNull = true) (type : FieldType) : read? type v = none := by
  cases v with
  | null hint => cases type <;> rfl
  | _ => cases h

theorem coerceTo_of_null (h : v.isNull = true) (type : FieldType) :
    v.coerceTo type = some (null type) := by
  cases v with
  | null hint => exact coerceTo_null hint type
  | _ => cases h

theorem extract_of_read (h : read? type v = some x) (field : String) :
    v.extract field type = .ok x := by
  simp only [extract, h]

theorem extract_of_not_read (h : read? type v = none) (field : String) :
    v.extract field type = .error (.typeMismatch field type.name v.foundName) := by
  simp only [extract, h]

end

/-- `w` is what a value becomes in a field of the type: of that type, kept by a further conversion,
absent like the value, and otherwise with the contents that are read from either. -/
structure Becomes (v : Value) (type : FieldType) (w : Value) : Prop where
  fieldType : w.fieldType = type
  kept : w.coerceTo type = some w
  isNull : w.isNull = v.isNull
  reads : v.isNull = false → ∃ x, ofContents type x = w ∧
    ∀ field, v.extract field type = .ok x ∧ w.extract field type = .ok x

theorem becomes_of_coerceTo {v w : Value} {type : FieldType} (h : v.coerceTo type = some w) :
    v.Becomes type w := by
  cases hnull : v.isNull with
  | true =>
      obtain rfl : null type = w := Option.some.inj ((coerceTo_of_null hnull type).symm.trans h)
      exact ⟨rfl, coerceTo_null type type, hnull.symm, fun h ↦ by cases hnull.symm.trans h⟩
  | false =>
      rw [coerceTo_of_present hnull] at h
      obtain ⟨x, hx, rfl⟩ := Option.map_eq_some_iff.mp h
      have hback : read? type (ofContents type x) = some x := read?_ofContents type x
      have hkept : (ofContents type x).coerceTo type = some (ofContents type x) := by
        rw [coerceTo_of_present (isNull_ofContents type x), hback, Option.map_some]
      refine ⟨fieldType_ofContents type x, hkept, (isNull_ofContents type x).trans hnull.symm,
        fun _ ↦ ⟨x, rfl, fun field ↦ ?_⟩⟩
      exact ⟨extract_of_read hx field, extract_of_read hback field⟩

theorem read?_of_coerceTo {v : Value} {type : FieldType} (h : v.coerceTo type = none) :
    read? type v = none := by
  cases hnull : v.isNull with
  | true => exact read?_of_null hnull type
  | false =>
      rw [coerceTo_of_present hnull] at h
      exact Option.map_eq_none_iff.mp h

end Value

open Value

/-- Converting a value to a type and reading it at that type agree on every value: what can be
converted reads as what it becomes, and what cannot be converted cannot be read. An absent value can
only be read as an optional one. Integers keep their number; a 64-bit one becomes a 32-bit one
exactly if it lies in the range of those. -/
theorem coerceTo_agrees_extract (v : Value) (type : FieldType) (field : String) :
    (∀ w, v.coerceTo type = some w → v.Becomes type w) ∧
    (v.coerceTo type = none →
      v.extract field type = .error (.typeMismatch field type.name v.foundName)) ∧
    (v.isNull = true → v.extractOption field type = .ok none ∧
      v.extract field type = .error (.typeMismatch field type.name "NULL")) ∧
    (v.isNull = false → v.extractOption field type = (v.extract field type).map some) ∧
    (∀ n : Int32, ∃ m : Int64, m.toInt = n.toInt ∧ (i32 n).coerceTo .i64 = some (i64 m) ∧
      (i64 m).coerceTo .i32 = some (i32 n)) ∧
    ∀ n : Int64, (((i64 n).coerceTo .i32).isSome ↔ -2 ^ 31 ≤ n.toInt ∧ n.toInt < 2 ^ 31) ∧
      ∀ w, (i64 n).coerceTo .i32 = some w → ∃ m : Int32, w = i32 m ∧ m.toInt = n.toInt := by
  have hnarrow (n : Int64) : (i64 n).coerceTo .i32 = (narrow? n).map i32 := rfl
  refine ⟨fun w ↦ becomes_of_coerceTo, fun h ↦ extract_of_not_read (read?_of_coerceTo h) field,
    fun h ↦ ⟨if_pos h, ?_⟩, fun h ↦ if_neg (by simp [h]), fun n ↦ ?_, fun n ↦ ⟨?_, fun w h ↦ ?_⟩⟩
  · have hfound : v.foundName = "NULL" := if_pos h
    rw [extract_of_not_read (read?_of_null h type), hfound]
  · exact ⟨n.toInt64, n.toInt_toInt64, rfl, by rw [hnarrow, narrow?_toInt64, Option.map_some]⟩
  · rw [hnarrow, Option.isSome_map, isSome_narrow?]
  · obtain ⟨m, hm, rfl⟩ := Option.map_eq_some_iff.mp h
    exact ⟨m, rfl, narrow?_eq_some.mp hm⟩

end RecordStore
