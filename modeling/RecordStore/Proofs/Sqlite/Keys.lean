import RecordStore.Proofs.Sqlite.Statements

namespace RecordStore

/-!
# Rows under keys

A row that a table keeps under a key is found by the key and read as what is told of the values that
were stored. An insertion under a new key and an update of all the rows under a key make a table that
keeps its row.
Where only the key is constrained and every row has a key of its own, neither of them is refused.
-/

theorem Layout.Accepts.keyType {l : Layout} {key : Key} {values : List Value}
    (h : l.Accepts (key.toValue :: values)) : key.keyType = l.keyType := by
  have htype := (List.cons_eq_cons.mp h.typed).1
  rw [Key.fieldType_toValue] at htype
  revert htype
  cases key.keyType <;> cases l.keyType <;> first | exact fun _ ↦ rfl | exact nofun

namespace Sqlite

open Database (operand insertedRow updatedRow parameter)

namespace Table

variable {t t' : Table} {l : Layout} {key : Key} {cells stored : List Cell}
  {others : List (List Cell)}

/-! ## Cells of keys -/

/-- The cell of the row for the key is that of the key. -/
def Bears (t : Table) (l : Layout) (key : Key) (cells : List Cell) : Prop :=
  (operand t l.keyColumn).cell cells = .ofValue key.toValue

theorem bears_iff {index : Nat} {c : Column} (hfinds : t.Finds l.keyColumn index c) :
    t.Bears l key cells ↔ cell cells index = .ofValue key.toValue := by
  rw [Bears, hfinds.operand, Database.Operand.cell]

theorem Bears.isUnder (hbears : t.Bears l key cells) (h : t.Declares l)
    (hkey : key.keyType = l.keyType) : t.isUnder l key cells = true := by
  obtain ⟨index, c, hfinds, -⟩ := h.key
  rw [isUnder_eq h hkey hfinds, (bears_iff hfinds).mp hbears]
  exact Cell.key_matchesCell_self key

/-- A row under a key bears it, if its cell is decoded as a key of that type at all. -/
theorem bears_of_isUnder (h : t.Declares l) (hkey : key.keyType = l.keyType) {v : Value}
    (hdecode : ((operand t l.keyColumn).cell cells).decode l.keyType.fieldType = .ok v)
    (hunder : t.isUnder l key cells = true) : t.Bears l key cells := by
  obtain ⟨index, c, hfinds, -⟩ := h.key
  rw [isUnder_eq h hkey hfinds] at hunder
  rw [hfinds.operand, ← hkey] at hdecode
  exact (bears_iff hfinds).mpr (Cell.eq_of_matchesCell hdecode hunder)

theorem Bears.decode (hbears : t.Bears l key cells) (hkey : key.keyType = l.keyType) :
    ((operand t l.keyColumn).cell cells).decode l.keyType.fieldType = .ok key.toValue := by
  rw [hbears, ← hkey]
  exact Cell.decode_key key

/-- The rows under a key are answered as that key, one by one, unless one of them cannot be decoded
as a key. -/
theorem decode_under_eq_ok (h : t.Declares l) (hkey : key.keyType = l.keyType) {rows : List Row} :
    ((t.under l key).map fun cells ↦ [l.keyColumn].map fun name ↦
        (operand t name).cell cells).mapM (Connection.decodeRow [l.keyType.fieldType]) = .ok rows ↔
      (∀ cells ∈ t.under l key, t.Bears l key cells) ∧
        rows = (t.under l key).map fun _ ↦ [key.toValue] := by
  have hunder : ∀ cells ∈ t.under l key, t.isUnder l key cells = true :=
    fun cells hcells ↦ (mem_under.mp hcells).2
  have hrow (cells : List Cell) (row : Row) : Connection.decodeRow [l.keyType.fieldType]
      [(operand t l.keyColumn).cell cells] = .ok row ↔ ∃ v,
        ((operand t l.keyColumn).cell cells).decode l.keyType.fieldType = .ok v ∧ row = [v] := by
    rw [Connection.decodeRow_eq_ok, List.zip_cons_cons, List.zip_nil_left,
      List.forall₂_cons_left_iff]
    simp
  generalize t.under l key = found at hunder
  rw [mapM_eq_ok, List.forall₂_map_left_iff]
  simp only [List.map_cons, List.map_nil, hrow]
  induction found generalizing rows with
  | nil => simp
  | cons cells found ih =>
      obtain ⟨hcells, hrest⟩ := List.forall_mem_cons.mp hunder
      rw [List.forall₂_cons_left_iff, List.forall_mem_cons]
      constructor
      · rintro ⟨_, rows, ⟨v, hv, rfl⟩, hrows, rfl⟩
        obtain ⟨hbears, rfl⟩ := (ih hrest).mp hrows
        have hcell := bears_of_isUnder h hkey hv hcells
        rw [hcell.decode hkey] at hv
        obtain rfl := Except.ok.inj hv
        exact ⟨⟨hcell, hbears⟩, rfl⟩
      · rintro ⟨⟨hcell, hbears⟩, rfl⟩
        exact ⟨_, _, ⟨key.toValue, hcell.decode hkey, rfl⟩, (ih hrest).mpr ⟨hbears, rfl⟩, rfl⟩

theorem bears_of_holds (h : t.Declares l) {values : List Value}
    (hholds : t.Holds l (key.toValue :: values) cells) : t.Bears l key cells := by
  obtain ⟨index, c, hfinds, -⟩ := h.key
  exact (bears_iff hfinds).mpr (hholds (l.keyColumn, key.toValue) List.mem_cons_self _ _ hfinds)

/-- A row that holds a row of values bears the key of the values once it is accepted. -/
theorem bears_accept (h : t.Declares l) {values : List Value}
    (haccepts : l.Accepts (key.toValue :: values))
    (hholds : t.Holds l (key.toValue :: values) cells)
    (hstored : t.accept others cells = .ok stored) : t.Bears l key stored := by
  have hread := read_accept h haccepts hholds hstored
  have hcell := (List.cons_eq_cons.mp hread).1
  dsimp only at hcell
  rwa [Key.fieldType_toValue, Cell.apply_key] at hcell

/-! ## Kept rows -/

/-- There are rows under the key, and all of them are read as what is told of the given one. -/
structure Keeps (t : Table) (l : Layout) (key : Key) (row : Row) : Prop where
  found : ∃ cells, cells ∈ t.under l key
  stores : ∀ cells ∈ t.under l key, t.Stores l row cells

theorem Keeps.decode {row : Row} (h : t.Keeps l key row) :
    ∃ rows, ((t.under l key).map (t.read l)).mapM (Connection.decodeRow l.rowShape) = .ok rows ∧
      rows ≠ [] ∧ ∀ row' ∈ rows, List.Forall₂ (fun v w ↦ v.told.agrees w = true) row row' := by
  obtain ⟨first, hfirst⟩ := h.found
  have hstores := h.stores
  simp only [mapM_eq_ok, List.forall₂_map_left_iff]
  generalize t.under l key = found at hfirst hstores
  have hall : ∃ rows, List.Forall₂
      (fun cells row ↦ Connection.decodeRow l.rowShape (t.read l cells) = .ok row) found rows ∧
      ∀ row' ∈ rows, List.Forall₂ (fun v w ↦ v.told.agrees w = true) row row' := by
    clear hfirst
    induction found with
    | nil => exact ⟨[], .nil, nofun⟩
    | cons cells found ih =>
        obtain ⟨⟨row', hrow', hagrees⟩, hrest⟩ := List.forall_mem_cons.mp hstores
        obtain ⟨rows, hrows, hall⟩ := ih hrest
        exact ⟨row' :: rows, .cons hrow' hrows, List.forall_mem_cons.mpr ⟨hagrees, hall⟩⟩
  obtain ⟨rows, hrows, hall⟩ := hall
  refine ⟨rows, hrows, ?_, hall⟩
  rintro rfl
  rw [List.forall₂_nil_right_iff.mp hrows] at hfirst
  cases hfirst

section

variable {values : List Value} (h : t.Declares l) (haccepts : l.Accepts (key.toValue :: values))

include h haccepts

theorem keeps_insert {places : List Nat} (hplaces : l.columns.map t.columnIndex? = places.map some)
    (hnone : t.under l key = [])
    (hinsert : t.insert (insertedRow t places ((key.toValue :: values).map .ofValue)) = .ok t') :
    t'.Keeps l key (key.toValue :: values) := by
  obtain ⟨stored, hstored, rfl⟩ := insert_eq_ok.mp hinsert
  have hholds : t.Holds l (key.toValue :: values) _ := holds_insertedRow h hplaces
  have hunder : t.isUnder l key stored = true :=
    (bears_accept h haccepts hholds hstored).isUnder h haccepts.keyType
  have hrows {cells : List Cell} : cells ∈ t.inOrder (t.rows ++ [stored]) ↔
      cells ∈ t.rows ∨ cells = stored := by
    rw [(perm_inOrder t _).mem_iff, List.mem_append, List.mem_singleton]
  refine ⟨⟨stored, mem_under.mpr ⟨hrows.mpr (.inr rfl), hunder⟩⟩, fun cells hcells ↦ ?_⟩
  obtain ⟨hmem, hcells⟩ := mem_under.mp hcells
  rcases hrows.mp hmem with hold | rfl
  · have hthere : cells ∈ t.under l key := mem_under.mpr ⟨hold, hcells⟩
    rw [hnone] at hthere
    cases hthere
  · exact stores_accept h haccepts hholds hstored

theorem keeps_update (hconverted : t.Converted) {places : List Nat}
    (hplaces : l.fieldNames.map t.columnIndex? = places.map some)
    (hfound : ∃ cells, cells ∈ t.under l key)
    (hbears : ∀ cells ∈ t.under l key, t.Bears l key cells)
    {count : Nat} (hupdate : t.update (t.isUnder l key)
      (updatedRow places ((values ++ [key.toValue]).map .ofValue)) = .ok (t', count)) :
    t'.Keeps l key (key.toValue :: values) := by
  obtain ⟨rows, rfl, hupdates⟩ := update_eq_ok hupdate
  have hholds : ∀ cells ∈ t.rows, t.isUnder l key cells = true →
      t.Holds l (key.toValue :: values)
        (updatedRow places ((values ++ [key.toValue]).map .ofValue) cells) := by
    intro cells hcells hunder
    refine holds_updatedRow h hplaces (hconverted.length hcells) fun index c hfinds ↦ ?_
    exact (bears_iff hfinds).mp (hbears cells (mem_under.mpr ⟨hcells, hunder⟩))
  have hrows {cells : List Cell} : cells ∈ t.inOrder rows ↔ cells ∈ rows :=
    (perm_inOrder t _).mem_iff
  constructor
  · obtain ⟨cells, hcells⟩ := hfound
    obtain ⟨hmem, hunder⟩ := mem_under.mp hcells
    obtain ⟨cells', hmem', hmade⟩ := exists_of_forall₂ hupdates.flip hmem
    replace hmade : t.Updates _ _ cells cells' := hmade
    rw [Updates, if_pos hunder] at hmade
    obtain ⟨others, hstored⟩ := hmade
    have hkept := bears_accept h haccepts (hholds cells hmem hunder) hstored
    exact ⟨cells', mem_under.mpr ⟨hrows.mpr hmem', hkept.isUnder h haccepts.keyType⟩⟩
  · intro cells' hcells'
    obtain ⟨hmem', hunder'⟩ := mem_under.mp hcells'
    obtain ⟨cells, hmem, hmade⟩ := exists_of_forall₂ hupdates (hrows.mp hmem')
    unfold Updates at hmade
    split at hmade
    · next hunder =>
      obtain ⟨others, hstored⟩ := hmade
      exact stores_accept h haccepts (hholds cells hmem hunder) hstored
    · next hother =>
      rw [hmade] at hunder'
      exact absurd hunder' hother

omit h in
/-- Without fields the rows that bear the key are what is to be stored. -/
theorem keeps_of_bears (hfields : l.fields = []) (hfound : ∃ cells, cells ∈ t.under l key)
    (hbears : ∀ cells ∈ t.under l key, t.Bears l key cells) :
    t.Keeps l key (key.toValue :: values) := by
  refine ⟨hfound, fun cells hcells ↦ ?_⟩
  have hnames : l.fieldNames = [] := by rw [Layout.fieldNames, hfields, List.map_nil]
  have hvalues : values = [] := by
    have hlength := haccepts.length
    rw [Layout.columns, hnames] at hlength
    exact List.length_eq_zero_iff.mp (Nat.succ.inj hlength)
  have hread : t.read l cells = (key.toValue :: values).map
      fun v ↦ v.fieldType.affinity.apply (.ofValue v) := by
    rw [read, Layout.columns, hnames, hvalues, List.map_singleton, List.map_singleton,
      Key.fieldType_toValue, Cell.apply_key, hbears cells hcells]
  rw [Stores, hread, ← haccepts.typed]
  exact decodeRow_ofValue haccepts.numbers

end

/-! ## Keyed tables -/

/-- The cells of keys of one type, no two of them the same. -/
structure AreKeys (type : KeyType) (cells : List Cell) : Prop where
  keys : ∀ c ∈ cells, ∃ key : Key, key.keyType = type ∧ c = .ofValue key.toValue
  distinct : cells.Nodup

theorem AreKeys.perm {type : KeyType} {front back : List Cell} (h : AreKeys type front)
    (hperm : back.Perm front) : AreKeys type back :=
  ⟨fun c hc ↦ h.keys c (hperm.mem_iff.mp hc), hperm.nodup_iff.mpr h.distinct⟩

/-- The cells of rows for the key. -/
def keyCells (t : Table) (l : Layout) (rows : List (List Cell)) : List Cell :=
  rows.map (operand t l.keyColumn).cell

/-- Only the column of the key is constrained, and every row bears a key of its own. -/
structure Keyed (t : Table) (l : Layout) : Prop where
  free : ∀ index c, t.columns[index]? = some c → t.columnIndex? l.keyColumn ≠ some index →
    c.role = .plain ∧ c.isRequired = false
  keys : AreKeys l.keyType (t.keyCells l t.rows)

theorem Keyed.of_rows (hkeyed : t.Keyed l) {rows : List (List Cell)}
    (hrows : AreKeys l.keyType (t.keyCells l rows)) : Keyed { t with rows := t.inOrder rows } l :=
  ⟨hkeyed.free, hrows.perm ((perm_inOrder t rows).map _)⟩

theorem isUnder_eq_false (h : t.Declares l) {other : Key} (hother : other.keyType = l.keyType)
    (hkey : key.keyType = l.keyType) (hbears : t.Bears l other cells) (hne : other ≠ key) :
    t.isUnder l key cells = false := by
  by_contra hunder
  have hsame := bears_of_isUnder h hkey (hbears.decode hother) (by simpa using hunder)
  exact hne (Cell.ofValue_key_injective (hbears.symm.trans hsame) (hother.trans hkey.symm))

section

variable (h : t.Declares l) (hkeyed : t.Keyed l) (hkey : key.keyType = l.keyType)

include h hkeyed hkey

theorem settleKey_eq_ok (hbears : t.Bears l key cells) :
    ∃ settled, t.settleKey cells = .ok settled ∧ t.Bears l key settled := by
  obtain ⟨index, c, hfinds, -⟩ := h.key
  have hcell := (bears_iff hfinds).mp hbears
  unfold settleKey
  cases hrowId : t.rowIdIndex? with
  | none => exact ⟨cells, rfl, hbears⟩
  | some place =>
      obtain ⟨hlt, hrole, -⟩ := List.findIdx?_eq_some_iff_getElem.mp hrowId
      have hplace : t.columns[place]? = some t.columns[place] := List.getElem?_eq_getElem hlt
      have hrole : t.columns[place].role = .rowId := by simpa using hrole
      have hsame : t.columnIndex? l.keyColumn = some place := by
        by_contra hne
        have hplain := (hkeyed.free place _ hplace hne).1
        rw [hrole] at hplain
        cases hplain
      have hinteger := h.rowId (l.keyColumn, l.keyType.fieldType) List.mem_cons_self place _
        ⟨hsame, hplace⟩ hrole
      obtain rfl : index = place := Option.some.inj (hfinds.1.symm.trans hsame)
      have hinside : index < cells.length :=
        lt_of_cell_ne_null (by rw [hcell]; cases key <;> nofun)
      rw [← hkey] at hinteger
      cases key with
      | int n =>
          refine ⟨cells.set index (.integer n), ?_, (bears_iff hfinds).mpr ?_⟩
          · dsimp only
            rw [hcell]
            rfl
          · exact cell_set_self hinside _
      | text s => cases (Prod.mk.inj hinteger).2
      | uuid u => cases (Prod.mk.inj hinteger).2

theorem accept_of_bears (hbears : t.Bears l key cells)
    (hothers : ∀ other ∈ others, t.isUnder l key other = false) :
    ∃ stored, t.accept others cells = .ok stored ∧ t.Bears l key stored := by
  obtain ⟨index, c, hfinds, haffinity⟩ := h.key
  obtain ⟨settled, hsettled, hbears'⟩ := settleKey_eq_ok h hkeyed hkey hbears
  have hcell : cell (t.convert settled) index = .ofValue key.toValue := by
    rw [cell_convert hfinds.2, (bears_iff hfinds).mp hbears', haffinity, ← hkey, Cell.apply_key]
  have hrequired : t.checkRequired (t.convert settled) = .ok () := by
    rw [checkRequired_eq_ok]
    rintro column c' hmem hrequired rfl
    obtain ⟨i, hcolumn, hc'⟩ := mem_zip_iff.mp hmem
    by_cases hi : t.columnIndex? l.keyColumn = some i
    · obtain rfl : index = i := Option.some.inj (hfinds.1.symm.trans hi)
      have hnull : Cell.ofValue key.toValue = .null := by
        rw [← hcell, cell, List.getD_eq_getElem?_getD, hc', Option.getD_some]
      cases key <;> cases hnull
    · rw [(hkeyed.free i column hcolumn hi).2] at hrequired
      cases hrequired
  have hunique : t.checkUnique others (t.convert settled) = .ok () := by
    rw [checkUnique_eq_ok]
    intro column i hmem other hother
    obtain ⟨hcolumn, hrole⟩ := mem_uniqueColumns.mp hmem
    have hi : t.columnIndex? l.keyColumn = some i := by
      by_contra hne
      exact hrole (hkeyed.free i column hcolumn hne).1
    obtain rfl : index = i := Option.some.inj (hfinds.1.symm.trans hi)
    rw [hcell, ← isUnder_eq h hkey hfinds, hothers other hother]
  exact ⟨t.convert settled, accept_eq_ok.mpr ⟨settled, hsettled, rfl, hrequired, hunique⟩,
    (bears_iff hfinds).mpr hcell⟩

/-- Every row under the key is updated as long as the change keeps the key, since no other row
bears it. -/
theorem updateFrom_of_bears {change : List Cell → List Cell} {done rows : List (List Cell)}
    (hchange : ∀ cells ∈ rows, t.Bears l key cells → t.Bears l key (change cells))
    (hkeys : AreKeys l.keyType (t.keyCells l (done ++ rows))) :
    ∃ rows' count, t.updateFrom (t.isUnder l key) change done rows = .ok (rows', count) ∧
      t.keyCells l rows' = t.keyCells l (done ++ rows) := by
  induction rows generalizing done with
  | nil => exact ⟨done, 0, rfl, by rw [List.append_nil]⟩
  | cons cells rows ih =>
      obtain ⟨hcells, hrest⟩ := List.forall_mem_cons.mp hchange
      -- the keys of the others and of this row are those of the whole table
      have hsplit : (t.keyCells l (done ++ cells :: rows)).Perm
          ((operand t l.keyColumn).cell cells :: t.keyCells l (done ++ rows)) :=
        List.perm_middle.map _
      have hapart := hkeys.perm hsplit.symm
      unfold updateFrom
      split
      · next hunder =>
        obtain ⟨other, hother, hthere⟩ := hapart.keys _ List.mem_cons_self
        have hbears := bears_of_isUnder h hkey (Bears.decode hthere hother) hunder
        have hothers : ∀ cells' ∈ done ++ rows, t.isUnder l key cells' = false := by
          intro cells' hcells'
          have hmem := List.mem_map_of_mem (f := (operand t l.keyColumn).cell) hcells'
          obtain ⟨key', hkey', hbears'⟩ := hapart.keys _ (List.mem_cons_of_mem _ hmem)
          refine isUnder_eq_false h hkey' hkey hbears' ?_
          rintro rfl
          refine (List.nodup_cons.mp hapart.distinct).1 ?_
          rw [hbears, ← hbears']
          exact hmem
        obtain ⟨changed, hchanged, hkept⟩ :=
          accept_of_bears h hkeyed hkey (hcells hbears) hothers
        have hsame : t.keyCells l (done ++ [changed] ++ rows)
            = t.keyCells l (done ++ cells :: rows) := by
          simp only [keyCells, List.append_assoc, List.singleton_append, List.map_append,
            List.map_cons]
          rw [hkept, hbears]
        obtain ⟨rows', count, hrows, hmap⟩ := ih hrest (by rwa [hsame])
        refine ⟨rows', count + 1, ?_, hmap.trans hsame⟩
        exact bind_eq_ok.mpr ⟨changed, hchanged, bind_eq_ok.mpr ⟨(rows', count), hrows, rfl⟩⟩
      · have hnext := @ih (done ++ [cells]) hrest
        rw [List.append_assoc, List.singleton_append] at hnext
        exact hnext hkeys

theorem Keyed.bears : ∀ cells ∈ t.under l key, t.Bears l key cells := by
  intro cells hcells
  obtain ⟨hmem, hunder⟩ := mem_under.mp hcells
  have hcell := List.mem_map_of_mem (f := (operand t l.keyColumn).cell) hmem
  obtain ⟨other, hother, hbears⟩ := hkeyed.keys.keys _ hcell
  exact bears_of_isUnder h hkey (Bears.decode hbears hother) hunder

/-- A row with a new key is inserted. -/
theorem Keyed.insert (hbears : t.Bears l key cells) (hnone : t.under l key = []) :
    ∃ t', t.insert cells = .ok t' ∧ t'.Keyed l := by
  have hfresh : ∀ other ∈ t.rows, t.isUnder l key other = false := by
    intro other hother
    by_contra hunder
    have hthere : other ∈ t.under l key := mem_under.mpr ⟨hother, by simpa using hunder⟩
    rw [hnone] at hthere
    cases hthere
  obtain ⟨stored, hstored, hkept⟩ := accept_of_bears h hkeyed hkey hbears hfresh
  refine ⟨_, insert_eq_ok.mpr ⟨stored, hstored, rfl⟩, hkeyed.of_rows ?_⟩
  have hperm : (t.keyCells l (t.rows ++ [stored])).Perm
      ((operand t l.keyColumn).cell stored :: t.keyCells l t.rows) :=
    (List.perm_append_singleton _ _).map _
  refine AreKeys.perm ⟨?_, ?_⟩ hperm
  · exact List.forall_mem_cons.mpr ⟨⟨key, hkey, hkept⟩, hkeyed.keys.keys⟩
  · refine List.nodup_cons.mpr ⟨fun hmem ↦ ?_, hkeyed.keys.distinct⟩
    obtain ⟨other, hother, hcell⟩ := List.mem_map.mp hmem
    have hunder := Bears.isUnder (hcell.trans hkept) h hkey
    rw [hfresh other hother] at hunder
    cases hunder

/-- The row under a key is updated. -/
theorem Keyed.update {change : List Cell → List Cell}
    (hchange : ∀ cells ∈ t.rows, t.Bears l key cells → t.Bears l key (change cells)) :
    ∃ t' count, t.update (t.isUnder l key) change = .ok (t', count) ∧ t'.Keyed l := by
  have hall : AreKeys l.keyType (t.keyCells l ([] ++ t.rows)) := hkeyed.keys
  obtain ⟨rows, count, hrows, hcells⟩ := updateFrom_of_bears h hkeyed hkey hchange hall
  have hkeys : AreKeys l.keyType (t.keyCells l rows) := by
    rw [hcells]
    exact hkeyed.keys
  exact ⟨_, count, bind_eq_ok.mpr ⟨(rows, count), hrows, rfl⟩, hkeyed.of_rows hkeys⟩

end

end Table

end Sqlite

end RecordStore
