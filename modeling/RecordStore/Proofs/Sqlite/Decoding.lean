import RecordStore.Proofs.Drafts
import RecordStore.Sqlite.Connection

namespace RecordStore.Sqlite

/-!
# Decoded rows

A cell that is decoded becomes a value of the type it is decoded at, and a row that is decoded has
the shape it is decoded with.
-/

theorem Cell.fieldType_of_narrow {n : Int64} {v : Value} (h : narrow n = .ok v) :
    v.fieldType = .i32 := by
  unfold narrow at h
  split at h
  · cases h
    rfl
  · cases h

theorem Cell.fieldType_of_decodeUuid {bytes : List UInt8} {v : Value}
    (h : decodeUuid bytes = .ok v) : v.fieldType = .uuid := by
  unfold decodeUuid at h
  split at h
  · cases h
    rfl
  · cases h

theorem Cell.fieldType_of_decodeDateTime {c : Cell} {v : Value}
    (h : decodeDateTime c = .ok v) : v.fieldType = .dateTime := by
  unfold decodeDateTime at h
  dsimp only at h
  split at h
  · cases h
    rfl
  · cases h

theorem Cell.fieldType_of_decodeAllowed {c : Cell} {t : FieldType} {v : Value}
    (h : c.decodeAllowed t = .ok v) : v.fieldType = t := by
  unfold decodeAllowed at h
  split at h
  · cases h
    rfl
  · exact fieldType_of_narrow h
  · cases h
    rfl
  · cases h
    rfl
  · cases h
    rfl
  · cases h
    rfl
  · exact fieldType_of_decodeUuid h
  · split at h
    · cases h
      rfl
    · cases h
  · exact fieldType_of_decodeDateTime h
  · split at h
    · cases h
      rfl
    · cases h
  · cases h
    rfl

theorem Cell.fieldType_of_decode {c : Cell} {t : FieldType} {v : Value}
    (h : c.decode t = .ok v) : v.fieldType = t := by
  unfold decode at h
  split at h
  · cases h
    rfl
  · split at h
    · exact fieldType_of_decodeAllowed h
    · cases h

namespace Connection

variable {shape : List FieldType} {cells : List Cell} {row : Row}

theorem decodeCells_eq_ok {column : Nat} (h : cells.length = shape.length) :
    decodeCells column shape cells = .ok row ↔
      List.Forall₂ (fun cell v ↦ cell.2.decode cell.1 = .ok v) (shape.zip cells) row := by
  induction shape generalizing cells row column with
  | nil =>
      obtain rfl : cells = [] := List.length_eq_zero_iff.mp h
      rw [decodeCells, List.zip_nil_left, List.forall₂_nil_left_iff]
      · exact ⟨fun hrow ↦ (Except.ok.inj hrow).symm, fun hrow ↦ congrArg _ hrow.symm⟩
      · exact nofun
  | cons t shape ih =>
      obtain ⟨cell, cells, rfl⟩ : ∃ cell rest, cells = cell :: rest :=
        List.exists_cons_of_length_eq_add_one h
      have hrest : cells.length = shape.length := by simpa using h
      rw [decodeCells, List.zip_cons_cons, List.forall₂_cons_left_iff]
      cases hcell : cell.decode t with
      | error fault =>
          refine iff_of_false nofun ?_
          rintro ⟨v, rest, hv, -⟩
          cases hv
      | ok w =>
          simp only [bind_eq_ok]
          constructor
          · rintro ⟨rest, hdecoded, hrow⟩
            obtain rfl : w :: rest = row := Except.ok.inj hrow
            exact ⟨w, rest, rfl, (ih hrest).mp hdecoded, rfl⟩
          · rintro ⟨v, rest, hv, hdecoded, rfl⟩
            obtain rfl : w = v := Except.ok.inj hv
            exact ⟨rest, (ih hrest).mpr hdecoded, rfl⟩

/-- A row is decoded cell by cell, and must have as many cells as the shape. -/
theorem decodeRow_eq_ok : decodeRow shape cells = .ok row ↔ cells.length = shape.length ∧
    List.Forall₂ (fun cell v ↦ cell.2.decode cell.1 = .ok v) (shape.zip cells) row := by
  unfold decodeRow
  by_cases h : cells.length = shape.length
  · rw [if_pos h, decodeCells_eq_ok h, and_iff_right h]
  · rw [if_neg h]
    exact iff_of_false nofun fun hrow ↦ h hrow.1

theorem types_of_decodeRow (h : decodeRow shape cells = .ok row) :
    row.map Value.fieldType = shape := by
  obtain ⟨hlength, hrow⟩ := decodeRow_eq_ok.mp h
  have hshape : (shape.zip cells).map Prod.fst = shape :=
    List.map_fst_zip (Nat.le_of_eq hlength.symm)
  rw [← hshape]
  clear h
  generalize shape.zip cells = typed at hrow
  induction hrow with
  | nil => rfl
  | cons hcell _ ih => rw [List.map_cons, List.map_cons, Cell.fieldType_of_decode hcell, ih]

/-- Every row that a connection answers a query with has the shape that is asked for. -/
theorem types_of_query {c : Connection} {inTransaction : Bool} {sql : String}
    {params : List Value} {rows : List Row}
    (h : (c.query inTransaction sql params shape).1 = .ok rows) :
    ∀ row ∈ rows, row.map Value.fieldType = shape := by
  unfold query at h
  split at h
  · intro row hrow
    obtain ⟨cells, hcells⟩ := exists_of_mapM_eq_ok h hrow
    exact types_of_decodeRow hcells
  · cases h

end Connection

end RecordStore.Sqlite
