import RecordStore.Proofs.Columns
import RecordStore.Proofs.Sqlite.Codec
import RecordStore.Proofs.Sqlite.Decoding
import RecordStore.Proofs.Sqlite.Tables

namespace RecordStore

/-!
# Rows that are stored and read

A table is declared for a layout if every column of the layout is a column of its own with the
affinity of its type. The cells of a row of values then go to the columns of the layout, the table
converts and checks them, and what a query for the columns of the layout reads off the stored row
is decoded as what is told of the values.
-/

/-- A row of values of the shape of the layout, with a key and without NaN. -/
structure Layout.Accepts (l : Layout) (row : Row) : Prop where
  typed : row.map Value.fieldType = l.rowShape
  key : ∀ v ∈ row.head?, v.isNull = false
  numbers : ∀ v ∈ row, v.isNaN = false

theorem Layout.Accepts.length {l : Layout} {row : Row} (h : l.Accepts row) :
    row.length = l.columns.length := by
  have hlength := congrArg List.length h.typed
  rwa [List.length_map, l.length_rowShape, ← l.length_columns] at hlength

theorem mem_zip_iff {α β : Type} {xs : List α} {ys : List β} {x : α × β} :
    x ∈ xs.zip ys ↔ ∃ i : Nat, xs[i]? = some x.1 ∧ ys[i]? = some x.2 := by
  rw [List.mem_iff_getElem?]
  exact exists_congr fun i ↦ List.getElem?_zip_eq_some

namespace Sqlite

open Database (operand Operand insertedRow updatedRow parameter)
open Text (sameLetters)

namespace Table

variable {t : Table} {l : Layout}

/-- A name finds the column at an index. -/
def Finds (t : Table) (name : String) (index : Nat) (c : Column) : Prop :=
  t.columnIndex? name = some index ∧ t.columns[index]? = some c

/-- The table is declared for the layout. An integer key is given a number in place of NULL, so the
only column that may be one is that of an integer key of the layout. -/
structure Declares (t : Table) (l : Layout) : Prop where
  affinity : ∀ x ∈ l.columns.zip l.rowShape, ∃ index c, t.Finds x.1 index c ∧
    c.affinity = x.2.affinity
  apart : l.columns.Pairwise fun a b ↦ sameLetters a b = false
  rowId : ∀ x ∈ l.columns.zip l.rowShape, ∀ index c, t.Finds x.1 index c → c.role = .rowId →
    x = (l.keyColumn, .i64)

/-- The cells that a query for the columns of the layout reads off a row. -/
def read (t : Table) (l : Layout) (row : List Cell) : List Cell :=
  l.columns.map fun name ↦ (operand t name).cell row

theorem Finds.lt {name : String} {index : Nat} {c : Column} (h : t.Finds name index c) :
    index < t.columns.length :=
  (List.getElem?_eq_some_iff.mp h.2).1

theorem Finds.operand {name : String} {index : Nat} {c : Column} (h : t.Finds name index c) :
    operand t name = .column index c.affinity := by
  simp [Database.operand, h.1, h.2]

theorem sameLetters_of_columnIndex? {name : String} {index : Nat} {c : Column}
    (h : t.Finds name index c) : sameLetters c.name name = true := by
  obtain ⟨hlt, hsame, -⟩ := List.findIdx?_eq_some_iff_getElem.mp h.1
  obtain ⟨_, rfl⟩ := List.getElem?_eq_some_iff.mp h.2
  exact hsame

def column? (t : Table) (name : String) : Option Column :=
  (t.columnIndex? name).bind (t.columns[·]?)

theorem column?_eq_some {name : String} {c : Column} :
    t.column? name = some c ↔ ∃ index, t.Finds name index c := by
  rw [column?, Option.bind_eq_some_iff]
  rfl

theorem declares_iff : t.Declares l ↔ (∀ x ∈ l.columns.zip l.rowShape, (t.column? x.1).any (fun c ↦
      c.affinity = x.2.affinity ∧ (c.role = .rowId → x = (l.keyColumn, .i64))) = true) ∧
    l.columns.Pairwise fun a b ↦ sameLetters a b = false := by
  simp only [Option.any_eq_true, decide_eq_true_eq, column?_eq_some]
  constructor
  · intro h
    refine ⟨fun x hx ↦ ?_, h.apart⟩
    obtain ⟨index, c, hfinds, haffinity⟩ := h.affinity x hx
    exact ⟨c, ⟨index, hfinds⟩, haffinity, h.rowId x hx index c hfinds⟩
  · rintro ⟨hcolumns, hapart⟩
    refine ⟨fun x hx ↦ ?_, hapart, fun x hx index c hfinds ↦ ?_⟩
    · obtain ⟨c, ⟨index, hfinds⟩, haffinity, -⟩ := hcolumns x hx
      exact ⟨index, c, hfinds, haffinity⟩
    · obtain ⟨c', hfound, -, hrowId⟩ := hcolumns x hx
      rw [← column?_eq_some, column?_eq_some.mpr ⟨index, hfinds⟩] at hfound
      obtain rfl := Option.some.inj hfound
      exact hrowId

instance : Decidable (t.Declares l) :=
  decidable_of_iff' _ declares_iff

/-- Two columns of the layout are not at one index. -/
theorem Declares.name_inj (h : t.Declares l) {a b : String} (ha : a ∈ l.columns)
    (hb : b ∈ l.columns) {index : Nat} {c : Column} (hfa : t.Finds a index c)
    (hfb : t.Finds b index c) : a = b := by
  by_contra hne
  have hsymm : Std.Symm fun a b ↦ sameLetters a b = false :=
    ⟨fun x y hxy ↦ by rwa [Text.sameLetters_comm]⟩
  have hapart := h.apart.forall ha hb hne
  have hsame : sameLetters a b = true := by
    have hca := sameLetters_of_columnIndex? hfa
    have hcb := sameLetters_of_columnIndex? hfb
    simp only [sameLetters, beq_iff_eq] at hca hcb ⊢
    rw [← hca, hcb]
  rw [hapart] at hsame
  cases hsame

/-! ## Cells -/

theorem cell_set_self {row : List Cell} {index : Nat} (h : index < row.length) (c : Cell) :
    cell (row.set index c) index = c := by
  simp [cell, h]

theorem cell_set_ne {row : List Cell} {i j : Nat} (h : i ≠ j) (c : Cell) :
    cell (row.set i c) j = cell row j := by
  simp [cell, List.getElem?_set_ne h]

theorem lt_of_cell_ne_null {row : List Cell} {index : Nat} (h : cell row index ≠ .null) :
    index < row.length := by
  by_contra hle
  exact h (by rw [cell, List.getD_eq_getElem?_getD, List.getElem?_eq_none (Nat.not_lt.mp hle)]; rfl)

theorem cell_convert {row : List Cell} {index : Nat} {c : Column}
    (h : t.columns[index]? = some c) :
    cell (t.convert row) index = c.affinity.apply (cell row index) := by
  have hzip : (t.columns.zip row)[index]? = row[index]?.map fun x ↦ (c, x) := by
    rw [List.zip, List.getElem?_zipWith, h]
    cases row[index]? <;> rfl
  simp only [cell, convert, List.getD_eq_getElem?_getD, List.getElem?_map, hzip]
  cases row[index]? <;> simp

/-- Putting the integer key in order leaves a cell alone that holds an integer or is elsewhere. -/
theorem cell_settleKey {row settled : List Cell} {index : Nat} {c : Column} {v : Value}
    (hcolumn : t.columns[index]? = some c) (hrow : cell row index = .ofValue v)
    (hinteger : c.role = .rowId → ∃ n, v = .i64 n) (h : t.settleKey row = .ok settled) :
    cell settled index = .ofValue v := by
  unfold settleKey at h
  split at h
  · next key hkey =>
    obtain ⟨keyed, hkeyed, rfl⟩ := map_eq_ok.mp h
    by_cases heq : key = index
    · subst heq
      obtain ⟨hlt, hrole, -⟩ := List.findIdx?_eq_some_iff_getElem.mp hkey
      obtain ⟨_, rfl⟩ := List.getElem?_eq_some_iff.mp hcolumn
      obtain ⟨n, rfl⟩ := hinteger (by simpa using hrole)
      have hinside : key < row.length := lt_of_cell_ne_null (by rw [hrow]; nofun)
      rw [hrow] at hkeyed
      obtain rfl : .integer n = keyed := Except.ok.inj hkeyed
      exact cell_set_self hinside _
    · rw [cell_set_ne heq, hrow]
  · cases h
    exact hrow

theorem cell_accept {others : List (List Cell)} {row stored : List Cell} {index : Nat} {c : Column}
    {v : Value} (hcolumn : t.columns[index]? = some c) (hrow : cell row index = .ofValue v)
    (hinteger : c.role = .rowId → ∃ n, v = .i64 n) (h : t.accept others row = .ok stored) :
    cell stored index = c.affinity.apply (.ofValue v) := by
  obtain ⟨settled, hsettled, rfl, -, -⟩ := accept_eq_ok.mp h
  rw [cell_convert hcolumn, cell_settleKey hcolumn hrow hinteger hsettled]

/-! ## Rows of values -/

theorem Declares.mem_shape {row : Row} (haccepts : l.Accepts row) {x : String × Value}
    (hx : x ∈ l.columns.zip row) : (x.1, x.2.fieldType) ∈ l.columns.zip l.rowShape := by
  obtain ⟨i, hname, hv⟩ := mem_zip_iff.mp hx
  refine mem_zip_iff.mpr ⟨i, hname, ?_⟩
  rw [← haccepts.typed, List.getElem?_map, hv]
  rfl

theorem Declares.finds (h : t.Declares l) {name : String} (hname : name ∈ l.columns) :
    ∃ index c, t.Finds name index c := by
  obtain ⟨i, hi⟩ := List.mem_iff_getElem?.mp hname
  have hlt : i < l.rowShape.length := by
    rw [l.length_rowShape, ← l.length_columns]
    exact (List.getElem?_eq_some_iff.mp hi).1
  obtain ⟨index, c, hfinds, -⟩ := h.affinity (name, l.rowShape[i])
    (mem_zip_iff.mpr ⟨i, hi, List.getElem?_eq_getElem hlt⟩)
  exact ⟨index, c, hfinds⟩

theorem Finds.unique {name : String} {i j : Nat} {c c' : Column} (h : t.Finds name i c)
    (h' : t.Finds name j c') : i = j ∧ c = c' := by
  obtain rfl := Option.some.inj (h.1.symm.trans h'.1)
  exact ⟨rfl, Option.some.inj (h.2.symm.trans h'.2)⟩

/-- No field shares the name of the key, so the value in the column of the key comes first. -/
theorem Declares.head?_of_key (h : t.Declares l) {row : Row} {x : String × Value}
    (hx : x ∈ l.columns.zip row) (hname : x.1 = l.keyColumn) : row.head? = some x.2 := by
  obtain ⟨i, hi, hv⟩ := mem_zip_iff.mp hx
  cases i with
  | zero => rwa [List.head?_eq_getElem?]
  | succ i =>
      have hfield : l.keyColumn ∈ l.fieldNames := hname ▸ List.mem_of_getElem? hi
      have happart := List.rel_of_pairwise_cons h.apart hfield
      rw [Text.sameLetters_self] at happart
      cases happart

/-- The column of a value has the affinity of its type, and an integer key is given an integer. -/
theorem Declares.column (h : t.Declares l) {row : Row} (haccepts : l.Accepts row)
    {x : String × Value} (hx : x ∈ l.columns.zip row) {index : Nat} {c : Column}
    (hfinds : t.Finds x.1 index c) :
    c.affinity = x.2.fieldType.affinity ∧ (c.role = .rowId → ∃ n, x.2 = .i64 n) := by
  have hshape := Declares.mem_shape haccepts hx
  obtain ⟨index', c', hfinds', haffinity⟩ := h.affinity _ hshape
  obtain ⟨rfl, rfl⟩ := hfinds.unique hfinds'
  refine ⟨haffinity, fun hrole ↦ ?_⟩
  obtain ⟨hname, htype⟩ := Prod.mk.inj (h.rowId _ hshape _ _ hfinds hrole)
  have hkey := haccepts.key x.2 (h.head?_of_key hx hname)
  generalize x.2 = v at htype hkey
  cases v with
  | null hint => cases hkey
  | i64 n => exact ⟨n, rfl⟩
  | _ => cases htype

/-- The cells of a row of values stand at the columns of the layout. -/
def Holds (t : Table) (l : Layout) (row : Row) (cells : List Cell) : Prop :=
  ∀ x ∈ l.columns.zip row, ∀ index c, t.Finds x.1 index c → cell cells index = .ofValue x.2

/-- What is read off the row is decoded as values that agree with what is told of the given ones. -/
def Stores (t : Table) (l : Layout) (row : Row) (cells : List Cell) : Prop :=
  ∃ row', Connection.decodeRow l.rowShape (t.read l cells) = .ok row' ∧
    List.Forall₂ (fun v w ↦ v.told.agrees w = true) row row'

theorem read_accept (h : t.Declares l) {row : Row} (haccepts : l.Accepts row)
    {others : List (List Cell)} {cells stored : List Cell} (hholds : t.Holds l row cells)
    (hstored : t.accept others cells = .ok stored) :
    t.read l stored = row.map fun v ↦ v.fieldType.affinity.apply (.ofValue v) := by
  refine List.ext_getElem? fun i ↦ ?_
  rw [read, List.getElem?_map, List.getElem?_map]
  cases hname : l.columns[i]? with
  | none =>
      have hrow : row[i]? = none := by
        rw [List.getElem?_eq_none_iff, haccepts.length]
        exact List.getElem?_eq_none_iff.mp hname
      rw [hrow]
      rfl
  | some name =>
      have hlt : i < row.length := by
        rw [haccepts.length]
        exact (List.getElem?_eq_some_iff.mp hname).1
      have hv : row[i]? = some row[i] := List.getElem?_eq_getElem hlt
      have hx : (name, row[i]) ∈ l.columns.zip row := mem_zip_iff.mpr ⟨i, hname, hv⟩
      obtain ⟨index, c, hfinds⟩ := h.finds (List.mem_of_getElem? hname)
      obtain ⟨haffinity, hinteger⟩ := h.column haccepts hx hfinds
      have hcell := cell_accept hfinds.2 (hholds _ hx index c hfinds) hinteger hstored
      rw [hv, Option.map_some, Option.map_some, hfinds.operand, Operand.cell, hcell, haffinity]

theorem decodeRow_ofValue {row : Row} (hnumbers : ∀ v ∈ row, v.isNaN = false) :
    ∃ row', Connection.decodeRow (row.map Value.fieldType)
        (row.map fun v ↦ v.fieldType.affinity.apply (.ofValue v)) = .ok row' ∧
      List.Forall₂ (fun v w ↦ v.told.agrees w = true) row row' := by
  simp only [Connection.decodeRow_eq_ok, List.length_map, true_and, List.zip_map',
    List.forall₂_map_left_iff]
  induction row with
  | nil => exact ⟨[], .nil, .nil⟩
  | cons v row ih =>
      obtain ⟨hv, hrest⟩ := List.forall_mem_cons.mp hnumbers
      obtain ⟨w, hw, hagrees⟩ := Cell.decode_apply hv
      obtain ⟨row', hrow', hall⟩ := ih hrest
      exact ⟨w :: row', .cons hw hrow', .cons hagrees hall⟩

/-- A row that holds values is stored as one that is read as what is told of them. -/
theorem stores_accept (h : t.Declares l) {row : Row} (haccepts : l.Accepts row)
    {others : List (List Cell)} {cells stored : List Cell} (hholds : t.Holds l row cells)
    (hstored : t.accept others cells = .ok stored) : t.Stores l row stored := by
  rw [Stores, read_accept h haccepts hholds hstored, ← haccepts.typed]
  exact decodeRow_ofValue haccepts.numbers

/-! ## Rows that are written -/

theorem Declares.nodup_columns (h : t.Declares l) : l.columns.Nodup := by
  refine h.apart.imp fun hab heq ↦ ?_
  rw [heq, Text.sameLetters_self] at hab
  cases hab

theorem Declares.nodup_places (h : t.Declares l) {columns : List String}
    (hsub : columns.Sublist l.columns) {places : List Nat}
    (hplaces : columns.map t.columnIndex? = places.map some) : places.Nodup := by
  have hnodup : (columns.map t.columnIndex?).Nodup := by
    refine (h.nodup_columns.sublist hsub).map_on fun a ha b hb heq ↦ ?_
    obtain ⟨i, c, ha'⟩ := h.finds (hsub.subset ha)
    obtain ⟨j, c', hb'⟩ := h.finds (hsub.subset hb)
    obtain rfl : i = j := Option.some.inj (ha'.1.symm.trans (heq.trans hb'.1))
    exact h.name_inj (hsub.subset ha) (hsub.subset hb) ha' ⟨hb'.1, ha'.2⟩
  rw [hplaces] at hnodup
  exact hnodup.of_map _

theorem getElem?_places {columns : List String} {places : List Nat}
    (hplaces : columns.map t.columnIndex? = places.map some) {i : Nat} {name : String}
    (hname : columns[i]? = some name) {index : Nat} {c : Column} (hfinds : t.Finds name index c) :
    places[i]? = some index := by
  have hi := congrArg (·[i]?) hplaces
  simp only [List.getElem?_map, hname, Option.map_some, hfinds.1] at hi
  obtain ⟨place, hplace, heq⟩ := Option.map_eq_some_iff.mp hi.symm
  rw [hplace, Option.some.inj heq]

theorem findIdx?_of_nodup {places : List Nat} (hnodup : places.Nodup) {i index : Nat}
    (hi : places[i]? = some index) : places.findIdx? (· == index) = some i := by
  obtain ⟨hlt, rfl⟩ := List.getElem?_eq_some_iff.mp hi
  refine List.findIdx?_eq_some_iff_getElem.mpr ⟨hlt, by simp, fun j hj ↦ ?_⟩
  have hne : places[j] ≠ places[i] := fun heq ↦
    Nat.ne_of_lt hj ((List.Nodup.getElem_inj_iff hnodup).mp heq)
  simpa using hne

theorem parameter_of_getElem? {params : List Cell} {i : Nat} {c : Cell}
    (h : params[i]? = some c) : parameter params (i + 1) = c := by
  simp [parameter, h]

theorem cell_insertedRow {targets : List Nat} (hnodup : targets.Nodup) {i index : Nat}
    (hi : targets[i]? = some index) (hlt : index < t.columns.length) {params : List Cell} {c : Cell}
    (hparam : params[i]? = some c) : cell (insertedRow t targets params) index = c := by
  have hrange : (List.range t.columns.length)[index]? = some index := by
    simp [hlt]
  simp only [cell, insertedRow, List.getD_eq_getElem?_getD, List.getElem?_map, hrange,
    Option.map_some, findIdx?_of_nodup hnodup hi, parameter_of_getElem? hparam, Option.getD_some]

/-- The row that an insertion writes holds the values it is given. -/
theorem holds_insertedRow (h : t.Declares l) {row : Row} {places : List Nat}
    (hplaces : l.columns.map t.columnIndex? = places.map some) :
    t.Holds l row (insertedRow t places (row.map .ofValue)) := by
  intro x hx index c hfinds
  obtain ⟨i, hname, hv⟩ := mem_zip_iff.mp hx
  have hi := getElem?_places hplaces hname hfinds
  have hnodup := h.nodup_places (.refl _) hplaces
  exact cell_insertedRow hnodup hi hfinds.lt (by rw [List.getElem?_map, hv]; rfl)

/-- Writing one cell after the other, the parameters counted from `place` on. -/
theorem cell_writes_of_not_mem {targets : List Nat} {index : Nat} (h : index ∉ targets)
    (params : List Cell) (place : Nat) (row : List Cell) :
    cell ((targets.zipIdx place).foldl
      (fun row (index, place) ↦ row.set index (parameter params place)) row) index
      = cell row index := by
  induction targets generalizing place row with
  | nil => rfl
  | cons target targets ih =>
      obtain ⟨hne, hrest⟩ := not_or.mp (fun hmem ↦ h (List.mem_cons.mpr hmem))
      rw [List.zipIdx_cons, List.foldl_cons, ih hrest, cell_set_ne (Ne.symm hne)]

theorem cell_writes {targets : List Nat} (hnodup : targets.Nodup) {i index : Nat}
    (hi : targets[i]? = some index) (params : List Cell) (place : Nat) {row : List Cell}
    (hlt : index < row.length) :
    cell ((targets.zipIdx place).foldl
      (fun row (index, place) ↦ row.set index (parameter params place)) row) index
      = parameter params (place + i) := by
  induction targets generalizing place row i with
  | nil => cases hi
  | cons target targets ih =>
      obtain ⟨hfresh, hnodup⟩ := List.nodup_cons.mp hnodup
      rw [List.zipIdx_cons, List.foldl_cons]
      cases i with
      | zero =>
          obtain rfl : target = index := Option.some.inj hi
          rw [cell_writes_of_not_mem hfresh, cell_set_self hlt]
          rfl
      | succ i =>
          have hlt' : index < (row.set target (parameter params place)).length := by
            rwa [List.length_set]
          rw [ih hnodup hi (place + 1) hlt', Nat.add_assoc, Nat.add_comm 1 i]

/-- An update of the fields of a row that holds the key makes it hold the key and their values. -/
theorem holds_updatedRow (h : t.Declares l) {key : Value} {values : List Value} {cells : List Cell}
    {places : List Nat} (hplaces : l.fieldNames.map t.columnIndex? = places.map some)
    (hlength : cells.length = t.columns.length)
    (hkey : ∀ index c, t.Finds l.keyColumn index c → cell cells index = .ofValue key) :
    t.Holds l (key :: values)
      (updatedRow places ((values ++ [key]).map .ofValue) cells) := by
  rintro ⟨name, v⟩ hx index c hfinds
  have hnodup : places.Nodup := h.nodup_places (List.sublist_cons_self _ _) hplaces
  obtain ⟨i, hname, hv⟩ := mem_zip_iff.mp hx
  cases i with
  | zero =>
      obtain rfl : l.keyColumn = name := Option.some.inj hname
      obtain rfl : key = v := Option.some.inj hv
      have hfresh : index ∉ places := by
        intro hmem
        have hfield : some index ∈ l.fieldNames.map t.columnIndex? := by
          rw [hplaces]
          exact List.mem_map_of_mem hmem
        obtain ⟨field, hfield, hindex⟩ := List.mem_map.mp hfield
        have heq := h.name_inj (List.mem_cons_of_mem _ hfield) List.mem_cons_self
          ⟨hindex, hfinds.2⟩ hfinds
        exact (List.nodup_cons.mp h.nodup_columns).1 (heq ▸ hfield)
      rw [updatedRow, cell_writes_of_not_mem hfresh]
      exact hkey index c hfinds
  | succ i =>
      have hi := getElem?_places hplaces hname hfinds
      have hlt : index < cells.length := hlength ▸ hfinds.lt
      have hparam : ((values ++ [key]).map Cell.ofValue)[i]? = some (.ofValue v) := by
        have hvalue : values[i]? = some v := hv
        have hinside := (List.getElem?_eq_some_iff.mp hvalue).1
        rw [List.getElem?_map, List.getElem?_append_left hinside, hvalue]
        rfl
      rw [updatedRow, cell_writes hnodup hi _ 1 hlt, Nat.add_comm, parameter_of_getElem? hparam]

end Table

end Sqlite

end RecordStore
