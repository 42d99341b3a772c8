import Mathlib.Algebra.Ring.Nat
import Mathlib.Data.List.Nodup
import RecordStore.Proofs.Layout
import RecordStore.Proofs.Sql.Read
import RecordStore.Statement
import RecordStore.Store.Write

namespace RecordStore

open Sql (Command Token)
open Store (insertRow updateRow)

/-!
# Columns, places and rows

The statements of a layout list columns and places by position, and so do the rows bound to them and
the rows read back. The texts are read back here and their columns set against the rows: no column
is given a value that belongs to another one.
-/

/-! ## Places -/

namespace Sql

def Token.isPlace : Token → Bool
  | place _ => true
  | _ => false

def placesIn (d : Dialect) (text : String) : Option Nat :=
  (scan d text.toList).map (·.countP Token.isPlace)

variable {d : Dialect}

theorem countP_withCommas (items : List (List Token)) :
    (withCommas items).countP Token.isPlace = (items.map (·.countP Token.isPlace)).sum := by
  induction items with
  | nil => rfl
  | cons item rest ih =>
      cases rest with
      | nil => simp [withCommas]
      | cons next rest =>
          have hmark : Token.isPlace (.mark ',') = false := rfl
          simp only [withCommas, List.countP_append, List.countP_cons, hmark, ih]
          simp

theorem countP_nameLexemes (columns : List String) :
    (tokens (nameLexemes columns)).countP Token.isPlace = 0 := by
  simp [nameLexemes, countP_withCommas, ident, Token.isPlace, Function.comp_def]

theorem countP_placeLexemes (first count : Nat) :
    (tokens (placeLexemes d first count)).countP Token.isPlace = count := by
  simp [placeLexemes, countP_withCommas, place, Token.placeIn, Token.isPlace, Function.comp_def]

theorem countP_assignmentLexemes (first : Nat) (columns : List String) :
    (tokens (assignmentLexemes d first columns)).countP Token.isPlace = columns.length := by
  simp [assignmentLexemes, countP_withCommas, place, mark, ident, Token.placeIn, Token.isPlace,
    Function.comp_def]

theorem countP_tableLexemes (table : TableName) :
    (tokens (tableLexemes table)).countP Token.isPlace = 0 := by
  obtain ⟨schema, name⟩ := table
  cases schema <;> simp [tableLexemes, ident, mark, Token.isPlace]

theorem placesIn_insert (table : TableName) (columns : List String) (places : Nat) :
    placesIn d ((Command.insert table columns places).render d) = some places := by
  simp [placesIn, Command.scan_render, Command.lexemes, word, mark, countP_nameLexemes,
    countP_placeLexemes, countP_tableLexemes, Token.isPlace]

theorem placesIn_update (table : TableName) (columns : List String) (key : String) :
    placesIn d ((Command.update table columns key).render d) = some (columns.length + 1) := by
  simp [placesIn, Command.scan_render, Command.lexemes, word, mark, ident, place, Token.placeIn,
    countP_assignmentLexemes, countP_tableLexemes, Token.isPlace]

end Sql

/-! ## Cells by column -/

/-- Position by position, a row gives a column this value and no other. -/
def Assigns (columns : List String) (row : Row) (column : String) (v : Value) : Prop :=
  column ∈ columns ∧ ∀ i : Nat, columns[i]? = some column → row[i]? = some v

/-- With distinct columns, what a lookup finds first is all there is. -/
theorem assigns_of_lookup {columns : List String} {row : Row} {column : String} {v : Value}
    (hnodup : columns.Nodup) (h : (columns.zip row).lookup column = some v) :
    Assigns columns row column v := by
  rw [lookup_zip_eq] at h
  obtain ⟨i, hi, hv⟩ := Option.bind_eq_some_iff.mp h
  obtain ⟨hlt, hcolumn, -⟩ := List.findIdx?_eq_some_iff_getElem.mp hi
  have heq : columns[i] = column := by simpa using hcolumn
  refine ⟨heq ▸ List.getElem_mem hlt, ?_⟩
  intro j hj
  obtain ⟨hjlt, hj⟩ := List.getElem?_eq_some_iff.mp hj
  obtain rfl : j = i := (List.Nodup.getElem_inj_iff hnodup).mp (hj.trans heq.symm)
  exact hv

namespace Layout

theorem zip_columns (l : Layout) :
    l.columns.zip l.rowShape = (l.keyColumn, l.keyType.fieldType) :: l.fields := by
  simp [columns, rowShape, fieldNames, fieldTypes, List.zip_map']

end Layout

namespace Record

variable {r : Record}

/-- What the record holds in one of its columns. -/
def cell (r : Record) (column : String) : Except Error Value :=
  if column = r.layout.keyColumn then .ok r.key.toValue else r.value column

theorem lookup_insertRow_key (r : Record) :
    (r.layout.columns.zip (insertRow r)).lookup r.layout.keyColumn = some r.key.toValue := by
  simp [Layout.columns, insertRow]

theorem lookup_insertRow_field (hsound : r.layout.Sound) {field : String}
    (hfield : field ∈ r.layout.fieldNames) :
    (r.layout.columns.zip (insertRow r)).lookup field
      = (r.layout.fieldNames.zip r.values).lookup field := by
  have hne : (field == r.layout.keyColumn) = false := by
    simpa using fun h : field = r.layout.keyColumn ↦ hsound.key_not_field (h ▸ hfield)
  simp [Layout.columns, insertRow, List.lookup_cons, hne]

theorem zip_updateRow (haligned : r.Aligned) :
    r.layout.fieldNames.zip (updateRow r) = r.layout.fieldNames.zip r.values := by
  have hlength : r.layout.fieldNames.length = r.values.length := by
    rw [haligned.length_values, Layout.length_fieldNames]
  have happend : (r.layout.fieldNames ++ []).zip (r.values ++ [r.key.toValue])
      = r.layout.fieldNames.zip r.values ++ [].zip [r.key.toValue] := List.zip_append hlength
  simpa [updateRow] using happend

theorem exists_lookup (haligned : r.Aligned) {field : String}
    (hfield : field ∈ r.layout.fieldNames) :
    ∃ v, (r.layout.fieldNames.zip r.values).lookup field = some v := by
  have hfound : (r.layout.fieldNames.findIdx? (· == field)).isSome = true := by
    rw [List.findIdx?_isSome, List.any_eq_true]
    exact ⟨field, hfield, beq_self_eq_true field⟩
  obtain ⟨i, hi⟩ := Option.isSome_iff_exists.mp hfound
  have hlt : i < r.values.length := by
    obtain ⟨hlt, -⟩ := List.findIdx?_eq_some_iff_getElem.mp hi
    rwa [haligned.length_values, ← Layout.length_fieldNames]
  exact ⟨r.values[i], by rw [lookup_zip_eq, hi]; simp [hlt]⟩

theorem cell_fieldNames (hsound : r.layout.Sound) {i : Nat}
    (hname : i < r.layout.fieldNames.length) (hvalue : i < r.values.length) :
    r.cell r.layout.fieldNames[i] = .ok r.values[i] := by
  have hne : r.layout.fieldNames[i] ≠ r.layout.keyColumn :=
    fun h ↦ hsound.key_not_field (h ▸ List.getElem_mem hname)
  rw [cell, if_neg hne]
  exact value_eq (lookup_zip_getElem hsound.nodup_fieldNames hname hvalue)

theorem map_cell_columns (hsound : r.layout.Sound) (haligned : r.Aligned) :
    r.layout.columns.map r.cell = (insertRow r).map .ok := by
  have hkey : r.cell r.layout.keyColumn = .ok r.key.toValue := by simp [cell]
  have hfields : r.layout.fieldNames.map r.cell = r.values.map .ok := by
    refine List.ext_getElem (by simp [haligned.length_values]) fun i hi hi' ↦ ?_
    simp only [List.getElem_map]
    exact cell_fieldNames hsound (by simpa using hi) (by simpa using hi')
  simp only [Layout.columns, insertRow, List.map_cons, hkey, hfields]

/-- Inserting a record gives each of its columns the cell of that column. -/
structure InsertsItsCells (d : Dialect) (r : Record) (text : String) : Prop where
  reads : Command.read? d text
    = some (.insert r.layout.table r.layout.columns (insertRow r).length)
  places : Sql.placesIn d text = some (insertRow r).length
  key : Assigns r.layout.columns (insertRow r) r.layout.keyColumn r.key.toValue
  fields : ∀ field ∈ r.layout.fieldNames, ∃ v, r.value field = .ok v ∧
    Assigns r.layout.columns (insertRow r) field v

/-- Updating a record gives each of its fields the value of that field, in the row whose key is the
one that stands behind the values. -/
structure UpdatesItsCells (d : Dialect) (r : Record) (text : String) : Prop where
  reads : Command.read? d text
    = some (.update r.layout.table r.layout.fieldNames r.layout.keyColumn)
  places : Sql.placesIn d text = some (updateRow r).length
  key : (updateRow r)[r.layout.fieldNames.length]? = some r.key.toValue
  fields : ∀ field ∈ r.layout.fieldNames, ∃ v, r.value field = .ok v ∧
    Assigns r.layout.fieldNames (updateRow r) field v

theorem insertsItsCells (d : Dialect) (hsound : r.layout.Sound) (haligned : r.Aligned) :
    r.InsertsItsCells d
      ((Command.insert r.layout.table r.layout.columns (r.layout.fieldCount + 1)).render d) := by
  have hlength : (insertRow r).length = r.layout.fieldCount + 1 := by
    simp [insertRow, haligned.length_values]
  refine ⟨?_, ?_, ?_, ?_⟩
  · rw [hlength]
    exact Command.read?_render ⟨by simp [Layout.columns], by simp⟩
  · rw [hlength, Sql.placesIn_insert]
  · exact assigns_of_lookup hsound.nodup_columns (lookup_insertRow_key r)
  · intro field hfield
    obtain ⟨v, hv⟩ := exists_lookup haligned hfield
    refine ⟨v, value_eq hv, assigns_of_lookup hsound.nodup_columns ?_⟩
    rw [lookup_insertRow_field hsound hfield, hv]

theorem updatesItsCells (d : Dialect) (hsound : r.layout.Sound) (haligned : r.Aligned)
    (hfields : r.layout.fields ≠ []) :
    r.UpdatesItsCells d
      ((Command.update r.layout.table r.layout.fieldNames r.layout.keyColumn).render d) := by
  refine ⟨?_, ?_, ?_, ?_⟩
  · exact Command.read?_render (by simpa [Command.Listed, Layout.fieldNames] using hfields)
  · rw [Sql.placesIn_update]
    simp [updateRow, haligned.length_values]
  · simp [updateRow, ← haligned.length_values]
  · intro field hfield
    obtain ⟨v, hv⟩ := exists_lookup haligned hfield
    refine ⟨v, value_eq hv, assigns_of_lookup hsound.nodup_fieldNames ?_⟩
    rw [zip_updateRow haligned, hv]

end Record

/-! ## Everything lines up -/

/-- For a record of a resolved layout, in any dialect: the columns, places and bound rows of its
insertion and its update agree, the selections list the columns in the order of the row shape, and
the record's own row in that order becomes the record again. -/
theorem columns_places_rows_agree {t : RecordType} {l : Layout} (hl : Layout.resolve t = .ok l)
    (d : Dialect) {r : Record} (hr : r.layout = l) (hbuilt : r.Built) :
    (∃ text, l.sql? d .insert 0 = some text ∧ r.InsertsItsCells d text) ∧
    (if l.fields = [] then l.sql? d .update 0 = none
      else ∃ text, l.sql? d .update 0 = some text ∧ r.UpdatesItsCells d text) ∧
    ∃ columns, (∃ text, l.sql? d .selectAll 0 = some text ∧
        Command.read? d text = some (.select columns l.table none)) ∧
      (∀ count, count ≠ 0 → ∃ text, l.sql? d .selectSome count = some text ∧
        Command.read? d text = some (.select columns l.table (some ⟨l.keyColumn, count⟩))) ∧
      columns.length = l.rowShape.length ∧
      columns.zip l.rowShape = (l.keyColumn, l.keyType.fieldType) :: l.fields ∧
      ∃ row : Row, columns.map r.cell = row.map .ok ∧ Record.ofRow l row = .ok r := by
  subst hr
  have hsound : r.layout.Sound := Layout.sound_of_resolve hl
  have haligned : r.Aligned := hbuilt.aligned
  refine ⟨⟨_, rfl, r.insertsItsCells d hsound haligned⟩, ?_, r.layout.columns, ?_, ?_, by simp,
    r.layout.zip_columns, insertRow r, r.map_cell_columns hsound haligned,
    Record.ofRow_of_types haligned r.key⟩
  · split
    · next hfields => simp [Layout.sql?, Layout.command?, hfields]
    · next hfields =>
      refine ⟨_, ?_, r.updatesItsCells d hsound haligned hfields⟩
      simp [Layout.sql?, Layout.command?, hfields]
  · exact ⟨_, rfl, Command.read?_render ⟨by simp [Layout.columns], by simp [Sql.KeyFilter.Listed]⟩⟩
  · intro count hcount
    refine ⟨_, rfl, Command.read?_render ⟨by simp [Layout.columns], ?_⟩⟩
    simpa [Sql.KeyFilter.Listed] using hcount

/-- A table whose name holds the delimiter of the dialect, with two fields. -/
theorem columns_places_rows_agree_delimited :
    let t : RecordType := ⟨"a`, b", some "s", "id", .int,
      [⟨"getName", .text, false⟩, ⟨"isOpen", .bool, false⟩]⟩
    let l : Layout := ⟨"a`, b", some "s", "id", .int, [("name", .text), ("open", .bool)]⟩
    let r : Record := ⟨l, .int 7, [.text "x", .null .bool]⟩
    Layout.resolve t = .ok l ∧ r.Built ∧
      ∃ text, l.sql? .mysql .update 0 = some text ∧ r.UpdatesItsCells .mysql text := by
  have hresolve : Layout.resolve ⟨"a`, b", some "s", "id", .int,
      [⟨"getName", .text, false⟩, ⟨"isOpen", .bool, false⟩]⟩
      = .ok ⟨"a`, b", some "s", "id", .int, [("name", .text), ("open", .bool)]⟩ := rfl
  intro t l r
  have hbuilt : r.Built := Record.built_iff_aligned.mpr (by decide)
  exact ⟨hresolve, hbuilt, (columns_places_rows_agree hresolve .mysql rfl hbuilt).2.1⟩

end RecordStore
