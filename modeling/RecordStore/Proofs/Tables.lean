import Mathlib.Data.List.AList
import RecordStore.Proofs.Columns
import RecordStore.Proofs.Registry

namespace RecordStore

open Sql (Command KeyFilter)

/-!
# Databases of keyed tables

A table is a finite map from keys to rows of values of the declared types. Commands have their usual
meaning on it: a selection finds every matching row once, an insertion needs a new key, an update
rewrites the row of its key and a deletion removes the matching rows and counts them.
-/

structure Table where
  layout : Layout
  rows : AList fun _ : Key ↦ List Value
  typed : ∀ k values, rows.lookup k = some values → values.map Value.fieldType = layout.fieldTypes

abbrev Database := TableName → Option Table

namespace Table

def cells (t : Table) (k : Key) (values : List Value) : List (String × Value) :=
  t.layout.columns.zip (k.toValue :: values)

def typeOf? (t : Table) (column : String) : Option FieldType :=
  (t.layout.columns.zip t.layout.rowShape).lookup column

def filter? (t : Table) (filter : Option KeyFilter) (params : List Value) : Option (Key → Bool) :=
  match filter with
  | none => if params = [] then some fun _ ↦ true else none
  | some f =>
    if f.key = t.layout.keyColumn ∧ f.count = params.length then some fun k ↦ k.toValue ∈ params
    else none

def select? (t : Table) (columns : List String) (p : Key → Bool) : Option (List Row) :=
  (t.rows.entries.filter fun entry ↦ p entry.1).mapM fun entry ↦
    columns.mapM fun column ↦ (t.cells entry.1 entry.2).lookup column

/-- Puts a row of the declared types under a key. -/
def store? (t : Table) (k : Key) (values : List Value) : Option Table :=
  if h : values.map Value.fieldType = t.layout.fieldTypes then
    some {
      layout := t.layout
      rows := t.rows.insert k values
      typed := by
        intro k' values' hlookup
        by_cases hk : k' = k
        · subst hk
          rw [AList.lookup_insert] at hlookup
          cases hlookup
          exact h
        · rw [AList.lookup_insert_ne hk] at hlookup
          exact t.typed k' values' hlookup }
  else none

def remove (t : Table) (p : Key → Bool) : Table where
  layout := t.layout
  rows := ⟨t.rows.entries.filter fun entry ↦ !p entry.1,
    t.rows.nodupKeys.sublist List.filter_sublist⟩
  typed := by
    intro k values hlookup
    refine t.typed k values ?_
    rw [← Option.mem_def, AList.mem_lookup_iff] at hlookup ⊢
    exact (List.mem_filter.mp hlookup).1

end Table

namespace Database

def set (db : Database) (table : TableName) (t : Table) : Database :=
  fun name ↦ if name = table then some t else db name

/-- The rows of the declared shape that a query asks for. -/
def query? (db : Database) (c : Command) (params : List Value) (shape : List FieldType) :
    Option (List Row) :=
  match c with
  | .select columns table filter => do
    let t ← db table
    let p ← t.filter? filter params
    let types ← columns.mapM t.typeOf?
    if types = shape then t.select? columns p else none
  | .count table => do
    let t ← db table
    if params = [] ∧ shape = [.i64] then some [[.i64 (Int64.ofNat t.rows.entries.length)]] else none
  | _ => none

/-- The database after a single statement and the number of rows that the statement affects. -/
def write? (db : Database) (c : Command) (params : List Value) : Option (Database × Nat) :=
  match c with
  | .insert table columns places => do
    let t ← db table
    let given := columns.zip params
    let key ← given.lookup t.layout.keyColumn
    let k ← Key.ofValue? key
    let values := t.layout.fields.map fun field ↦ (given.lookup field.1).getD (.null field.2)
    if places = params.length ∧ columns.length = params.length ∧ columns ⊆ t.layout.columns
        ∧ t.rows.lookup k = none then
      let t ← t.store? k values
      some (db.set table t, 1)
    else none
  | .update table columns key => do
    let t ← db table
    let given := columns.zip params
    let bound ← params[columns.length]?
    if key = t.layout.keyColumn ∧ params.length = columns.length + 1
        ∧ columns ⊆ t.layout.fieldNames then
      match t.rows.entries.find? fun entry ↦ entry.1.toValue = bound with
      | none => some (db, 0)
      | some ⟨k, old⟩ =>
        let values := (t.layout.fieldNames.zip old).map fun field ↦
          (given.lookup field.1).getD field.2
        let t ← t.store? k values
        some (db.set table t, 1)
    else none
  | .delete table filter => do
    let t ← db table
    let p ← t.filter? filter params
    some (db.set table (t.remove p), (t.rows.entries.filter fun entry ↦ p entry.1).length)
  | _ => none

/-- Writes rows one after the other up to the first that cannot be written. -/
def writeAll (c : Command) : Database → List Row → Database × Option (List Nat)
  | db, [] => (db, some [])
  | db, row :: rest =>
    match db.write? c row with
    | none => (db, none)
    | some (db, n) =>
      let (db, counts) := writeAll c db rest
      (db, counts.map (n :: ·))

end Database

/-! ## Contents -/

/-- The values that stand in a table under a key. -/
abbrev Contents := TableName → Key → Option (List Value)

namespace Contents

/-- The contents with the values of the given records in place of what their keys had before. -/
def overlay (m : Contents) (records : List Record) : Contents := fun table k ↦
  match records.find? fun r ↦ r.layout.table = table ∧ r.key = k with
  | some r => some r.values
  | none => m table k

def without (m : Contents) (table : TableName) (p : Key → Bool) : Contents := fun table' k ↦
  if table' = table ∧ p k = true then none else m table' k

def record? (m : Contents) (l : Layout) (k : Key) : Option Record :=
  (m l.table k).map fun values ↦ ⟨l, k, values⟩

@[simp] theorem overlay_nil (m : Contents) : m.overlay [] = m := rfl

theorem overlay_of_mem {records : List Record} (m : Contents)
    (hkeys : (records.map Record.key).Nodup) {r : Record} (hr : r ∈ records) :
    m.overlay records r.layout.table r.key = some r.values := by
  unfold overlay
  cases hfind : records.find? fun r' ↦ r'.layout.table = r.layout.table ∧ r'.key = r.key with
  | none =>
      have hmatch := List.find?_eq_none.mp hfind r hr
      simp at hmatch
  | some r' =>
      have hkey : r'.key = r.key := by
        have hmatch := List.find?_some hfind
        simp only [decide_eq_true_eq] at hmatch
        exact hmatch.2
      rw [List.inj_on_of_nodup_map hkeys (List.mem_of_find?_eq_some hfind) hr hkey]

theorem overlay_of_not_mem {records : List Record} (m : Contents) {table : TableName} {k : Key}
    (h : ∀ r ∈ records, r.layout.table = table → r.key ≠ k) :
    m.overlay records table k = m table k := by
  unfold overlay
  rw [List.find?_eq_none.mpr fun r hr ↦ by simpa using h r hr]

/-- Overlaying in two batches with distinct keys is overlaying at once. -/
theorem overlay_overlay (m : Contents) {first second records : List Record}
    (hkeys : (records.map Record.key).Nodup)
    (hmem : ∀ r, r ∈ records ↔ r ∈ first ∨ r ∈ second)
    (hfirst : (first.map Record.key).Nodup) (hsecond : (second.map Record.key).Nodup) :
    (m.overlay first).overlay second = m.overlay records := by
  funext table k
  by_cases h : ∃ r ∈ records, r.layout.table = table ∧ r.key = k
  · obtain ⟨r, hr, rfl, rfl⟩ := h
    rw [overlay_of_mem m hkeys hr]
    by_cases hr₂ : r ∈ second
    · exact overlay_of_mem _ hsecond hr₂
    · have hr₁ : r ∈ first := ((hmem r).mp hr).resolve_right hr₂
      rw [overlay_of_not_mem, overlay_of_mem m hfirst hr₁]
      intro r' hr' _ hkey
      have hsame : r' = r :=
        List.inj_on_of_nodup_map hkeys ((hmem r').mpr (.inr hr')) hr hkey
      exact hr₂ (hsame ▸ hr')
  · have hnone (r : Record) (hr : r ∈ records) (htable : r.layout.table = table) : r.key ≠ k :=
      fun hkey ↦ h ⟨r, hr, htable, hkey⟩
    rw [overlay_of_not_mem m hnone,
      overlay_of_not_mem _ fun r hr ↦ hnone r ((hmem r).mpr (.inr hr)),
      overlay_of_not_mem m fun r hr ↦ hnone r ((hmem r).mpr (.inl hr))]

/-- Overlaying what is there already changes nothing. -/
theorem overlay_eq_self (m : Contents) {records : List Record}
    (h : ∀ r ∈ records, m r.layout.table r.key = some r.values) : m.overlay records = m := by
  funext table k
  unfold overlay
  split
  · next r hfind =>
    have hmatch := List.find?_some hfind
    simp only [decide_eq_true_eq] at hmatch
    obtain ⟨rfl, rfl⟩ := hmatch
    exact (h r (List.mem_of_find?_eq_some hfind)).symm
  · rfl

end Contents

/-- There are exactly `n` keys with this property. -/
def Counts (p : Key → Prop) (n : Nat) : Prop :=
  ∃ keys : List Key, keys.Nodup ∧ (∀ k, k ∈ keys ↔ p k) ∧ keys.length = n

namespace Table

variable {t : Table}

theorem mem_entries {k : Key} {values : List Value} :
    ⟨k, values⟩ ∈ t.rows.entries ↔ t.rows.lookup k = some values := by
  rw [← AList.mem_lookup_iff, Option.mem_def]

theorem keys_filter (t : Table) (p : Key → Bool) :
    ((t.rows.entries.filter fun entry ↦ p entry.1).map Sigma.fst).Nodup ∧
      ∀ k, k ∈ (t.rows.entries.filter fun entry ↦ p entry.1).map Sigma.fst ↔
        p k = true ∧ (t.rows.lookup k).isSome := by
  refine ⟨t.rows.nodupKeys.sublist List.filter_sublist, fun k ↦ ?_⟩
  simp only [List.mem_map, List.mem_filter]
  constructor
  · rintro ⟨⟨k, values⟩, ⟨hmem, hp⟩, rfl⟩
    exact ⟨hp, by rw [mem_entries.mp hmem, Option.isSome_some]⟩
  · rintro ⟨hp, hsome⟩
    obtain ⟨values, hvalues⟩ := Option.isSome_iff_exists.mp hsome
    exact ⟨⟨k, values⟩, ⟨mem_entries.mpr hvalues, hp⟩, rfl⟩

theorem counts_filter (t : Table) (p : Key → Bool) :
    Counts (fun k ↦ p k = true ∧ (t.rows.lookup k).isSome)
      (t.rows.entries.filter fun entry ↦ p entry.1).length := by
  obtain ⟨hnodup, hmem⟩ := t.keys_filter p
  exact ⟨_, hnodup, hmem, List.length_map _⟩

theorem lookup_remove (t : Table) (p : Key → Bool) (k : Key) :
    (t.remove p).rows.lookup k = if p k = true then none else t.rows.lookup k := by
  refine Option.ext fun values ↦ ?_
  rw [← mem_entries]
  simp only [remove, List.mem_filter, mem_entries]
  by_cases hp : p k = true <;> simp [hp]

end Table

namespace Database

def contents (db : Database) : Contents := fun table k ↦ (db table).bind fun t ↦ t.rows.lookup k

def layouts (db : Database) : TableName → Option Layout := fun table ↦
  (db table).map Table.layout

/-- Every registered layout has its table. -/
def Serves (db : Database) (layout? : String → Option Layout) : Prop :=
  ∀ name l, layout? name = some l → db.layouts l.table = some l

/-- The database with an empty table for every registered layout. -/
def ofRegistry (r : Registry) : Database := fun table ↦
  match r.get? table.name with
  | some l => if l.table = table then some ⟨l, ∅, by simp⟩ else none
  | none => none

theorem serves_ofRegistry {r : Registry} (hr : r.Sound) : (ofRegistry r).Serves r.get? := by
  intro name l hl
  obtain ⟨hname, -⟩ := hr.layouts hl
  have htable : r.get? l.table.name = some l := by
    rw [Layout.table, hname]
    exact hl
  simp only [layouts, ofRegistry, htable, if_true, Option.map_some]

variable {db : Database} {table : TableName} {t t' : Table}

theorem layouts_set (ht : db table = some t) (hlayout : t'.layout = t.layout) :
    (db.set table t').layouts = db.layouts := by
  funext name
  by_cases hname : name = table
  · simp [layouts, set, hname, ht, hlayout]
  · simp [layouts, set, hname]

theorem contents_set (db : Database) (table : TableName) (t' : Table) :
    (db.set table t').contents
      = fun name k ↦ if name = table then t'.rows.lookup k else db.contents name k := by
  funext name k
  by_cases hname : name = table
  · simp [contents, set, hname]
  · simp [contents, set, hname]

theorem contents_eq (ht : db table = some t) (k : Key) :
    db.contents table k = t.rows.lookup k := by
  simp [contents, ht]

theorem exists_table {l : Layout} (h : db.layouts l.table = some l) :
    ∃ t, db l.table = some t ∧ t.layout = l := by
  simpa [layouts, Option.map_eq_some_iff] using h

end Database

/-! ## What the statements of a layout do -/

theorem mapM_of_map {α β : Type} {f : α → Option β} {xs : List α} {ys : List β}
    (h : xs.map f = ys.map some) : xs.mapM f = some ys := by
  induction xs generalizing ys with
  | nil =>
      obtain rfl : ys = [] := by simpa using h
      rfl
  | cons x xs ih =>
      cases ys with
      | nil => simp at h
      | cons y ys =>
          obtain ⟨hx, hrest⟩ := List.cons.inj h
          simp [List.mapM_cons, hx, ih hrest]

theorem Key.toValue_injective {k k' : Key} (h : k.toValue = k'.toValue) : k = k' := by
  simpa using congrArg Key.ofValue? h

theorem Key.toValue_mem {k : Key} {keys : List Key} :
    k.toValue ∈ keys.map Key.toValue ↔ k ∈ keys := by
  simp only [List.mem_map]
  constructor
  · rintro ⟨k', hk', h⟩
    exact Key.toValue_injective h ▸ hk'
  · exact fun h ↦ ⟨k, h, rfl⟩

theorem Table.filter?_keys {t : Table} {l : Layout} (hlayout : t.layout = l) (keys : List Key) :
    t.filter? (some ⟨l.keyColumn, keys.length⟩) (keys.map Key.toValue)
      = some fun k ↦ decide (k ∈ keys) := by
  simp only [filter?, hlayout, List.length_map, and_self, if_true, Key.toValue_mem]

namespace Database

open Store (insertRow updateRow)

variable {db : Database} {l : Layout}

section

variable (hl : l.Sound) (hdb : db.layouts l.table = some l)

include hdb

theorem query?_keys (keys : List Key) :
    ∃ found : List Key,
      db.query? (.select [l.keyColumn] l.table (some ⟨l.keyColumn, keys.length⟩))
        (keys.map Key.toValue) [l.keyType.fieldType] = some (found.map fun k ↦ [k.toValue]) ∧
      found.Nodup ∧ ∀ k, k ∈ found ↔ k ∈ keys ∧ (db.contents l.table k).isSome := by
  obtain ⟨t, ht, rfl⟩ := exists_table hdb
  let p (k : Key) : Bool := k ∈ keys
  obtain ⟨hnodup, hmem⟩ := t.keys_filter p
  refine ⟨_, ?_, hnodup, fun k ↦ ?_⟩
  · have hselect : t.select? [t.layout.keyColumn] p
        = some ((t.rows.entries.filter fun entry ↦ p entry.1).map
            fun entry ↦ [entry.1.toValue]) := by
      refine mapM_of_map ?_
      simp [Table.cells, Layout.columns, Function.comp_def]
    have htypes : [t.layout.keyColumn].mapM t.typeOf? = some [t.layout.keyType.fieldType] := by
      simp [Table.typeOf?, Layout.columns, Layout.rowShape]
    have hfilter : t.filter? (some ⟨t.layout.keyColumn, keys.length⟩) (keys.map Key.toValue)
        = some p := Table.filter?_keys rfl keys
    simp only [query?, ht, Option.bind_eq_bind, Option.bind_some]
    rw [hfilter]
    simp only [Option.bind_some, htypes, hselect, if_true, List.map_map, Function.comp_def]
  · rw [hmem, contents_eq ht, decide_eq_true_eq]

theorem query?_count :
    ∃ n, db.query? (.count l.table) [] [.i64] = some [[.i64 (Int64.ofNat n)]] ∧
      Counts (fun k ↦ (db.contents l.table k).isSome = true) n := by
  obtain ⟨t, ht, rfl⟩ := exists_table hdb
  obtain ⟨keys, hnodup, hmem, hlength⟩ := t.counts_filter fun _ ↦ true
  refine ⟨t.rows.entries.length, by simp [query?, ht], keys, hnodup, fun k ↦ ?_, ?_⟩
  · simp [hmem, contents_eq ht]
  · simpa using hlength

include hl

/-- Selecting the columns of a layout finds the rows of the records that the filter lets through. -/
theorem query?_rows {filter : Option KeyFilter} {params : List Value} {p : Key → Bool}
    (hfilter : ∀ t : Table, t.layout = l → t.filter? filter params = some p) :
    ∃ found : List Record,
      db.query? (.select l.columns l.table filter) params l.rowShape
        = some (found.map insertRow) ∧
      (found.map Record.key).Nodup ∧
      ∀ r, r ∈ found ↔ p r.key = true ∧ db.contents.record? l r.key = some r := by
  obtain ⟨t, ht, rfl⟩ := exists_table hdb
  obtain ⟨hnodup, -⟩ := t.keys_filter p
  refine ⟨(t.rows.entries.filter fun entry ↦ p entry.1).map fun entry ↦
    ⟨t.layout, entry.1, entry.2⟩, ?_, ?_, fun r ↦ ?_⟩
  · have hcells (k : Key) (values : List Value) (h : ⟨k, values⟩ ∈ t.rows.entries) :
        t.layout.columns.mapM (fun column ↦ (t.cells k values).lookup column)
          = some (k.toValue :: values) := by
      have htypes := t.typed k values (Table.mem_entries.mp h)
      refine mapM_of_map (map_lookup_zip hl.nodup_columns ?_)
      simpa using congrArg List.length htypes
    have htypes : t.layout.columns.mapM t.typeOf? = some t.layout.rowShape :=
      mapM_of_map (map_lookup_zip hl.nodup_columns (by simp))
    have hselect : t.select? t.layout.columns p
        = some ((t.rows.entries.filter fun entry ↦ p entry.1).map
            fun entry ↦ entry.1.toValue :: entry.2) := by
      refine mapM_of_map ?_
      rw [List.map_map]
      exact List.map_congr_left fun entry h ↦ hcells entry.1 entry.2 (List.mem_filter.mp h).1
    have hchosen := hfilter t rfl
    simp only [query?, ht, Option.bind_eq_bind, Option.bind_some]
    rw [hchosen]
    simp [htypes, hselect, insertRow, Function.comp_def]
  · rw [List.map_map]
    exact hnodup
  · simp only [List.mem_map, List.mem_filter, Contents.record?, contents_eq ht,
      Option.map_eq_some_iff]
    constructor
    · rintro ⟨⟨k, values⟩, ⟨hmem, hp⟩, rfl⟩
      exact ⟨hp, values, Table.mem_entries.mp hmem, rfl⟩
    · rintro ⟨hp, values, hvalues, hr⟩
      exact ⟨⟨r.key, values⟩, ⟨Table.mem_entries.mpr hvalues, hp⟩, hr⟩

end

theorem map_given {α : Type} {fields : List (String × α)} {values : List Value}
    {given : List (String × Value)} {names : List String} (hnames : fields.map Prod.fst = names)
    (hnodup : names.Nodup) (hlength : values.length = names.length)
    (hgiven : ∀ name ∈ names, given.lookup name = (names.zip values).lookup name)
    (fallback : String × α → Value) :
    fields.map (fun field ↦ (given.lookup field.1).getD (fallback field)) = values := by
  have hfields : fields.length = names.length := by rw [← hnames, List.length_map]
  refine List.ext_getElem (by rw [List.length_map, hfields, hlength]) fun i hi hi' ↦ ?_
  have hname : i < names.length := hlength ▸ hi'
  have hfield : fields[i].1 = names[i] := by
    simp only [← hnames, List.getElem_map]
  rw [List.getElem_map, hfield, hgiven _ (List.getElem_mem hname),
    lookup_zip_getElem hnodup hname hi', Option.getD_some]

theorem set_store {t : Table} {r : Record} (ht : db r.layout.table = some t)
    (hlayout : t.layout = r.layout) (haligned : r.Aligned) :
    ∃ t', t.store? r.key r.values = some t' ∧ (db.set r.layout.table t').layouts = db.layouts ∧
      (db.set r.layout.table t').contents = db.contents.overlay [r] := by
  have htypes : r.values.map Value.fieldType = t.layout.fieldTypes := by rw [hlayout, haligned]
  refine ⟨_, dif_pos htypes, layouts_set ht rfl, ?_⟩
  rw [contents_set]
  funext table k
  by_cases hmatch : r.layout.table = table ∧ r.key = k
  · obtain ⟨rfl, rfl⟩ := hmatch
    have hmem : db.contents.overlay [r] r.layout.table r.key = some r.values :=
      Contents.overlay_of_mem _ (by simp) (List.mem_singleton_self r)
    rw [if_pos rfl, AList.lookup_insert, hmem]
  · rw [Contents.overlay_of_not_mem]
    · split
      · next htable =>
        subst htable
        rw [AList.lookup_insert_ne fun hk ↦ hmatch ⟨rfl, hk.symm⟩, contents_eq ht]
      · rfl
    · simpa using hmatch

section

variable {r : Record} (hl : r.layout.Sound) (hdb : db.layouts r.layout.table = some r.layout)
  (haligned : r.Aligned)

include hl hdb haligned

theorem write?_insert (hnew : db.contents r.layout.table r.key = none) :
    ∃ db', db.write? (.insert r.layout.table r.layout.columns (r.layout.fieldCount + 1))
        (insertRow r) = some (db', 1) ∧
      db'.layouts = db.layouts ∧ db'.contents = db.contents.overlay [r] := by
  obtain ⟨t, ht, hlayout⟩ := exists_table hdb
  obtain ⟨t', hstore, hlayouts, hcontents⟩ := set_store ht hlayout haligned
  rw [contents_eq ht] at hnew
  have hlength : (insertRow r).length = r.layout.fieldCount + 1 := by
    simp [insertRow, haligned.length_values]
  have hnames : r.layout.fields.map Prod.fst = r.layout.fieldNames := rfl
  have hvalues : r.layout.fields.map (fun field ↦
      ((r.layout.columns.zip (insertRow r)).lookup field.1).getD (.null field.2)) = r.values :=
    map_given hnames hl.nodup_fieldNames
      (by rw [haligned.length_values, Layout.length_fieldNames])
      (fun name hname ↦ Record.lookup_insertRow_field hl hname) _
  refine ⟨_, ?_, hlayouts, hcontents⟩
  simp [write?, ht, hlayout, Record.lookup_insertRow_key, Key.ofValue?_toValue, hvalues, hlength,
    hnew, hstore]

theorem write?_update (hold : (db.contents r.layout.table r.key).isSome) :
    ∃ db', db.write? (.update r.layout.table r.layout.fieldNames r.layout.keyColumn)
        (updateRow r) = some (db', 1) ∧
      db'.layouts = db.layouts ∧ db'.contents = db.contents.overlay [r] := by
  obtain ⟨t, ht, hlayout⟩ := exists_table hdb
  obtain ⟨t', hstore, hlayouts, hcontents⟩ := set_store ht hlayout haligned
  rw [contents_eq ht] at hold
  obtain ⟨old, hlookup⟩ := Option.isSome_iff_exists.mp hold
  have hlength : (updateRow r).length = r.layout.fieldNames.length + 1 := by
    simp [updateRow, haligned.length_values]
  have hbound : (updateRow r)[r.layout.fieldNames.length]? = some r.key.toValue := by
    simp [updateRow, ← haligned.length_values]
  have hfind : t.rows.entries.find? (fun entry ↦ entry.1.toValue = r.key.toValue)
      = some ⟨r.key, old⟩ := by
    cases hfound : t.rows.entries.find? fun entry ↦ entry.1.toValue = r.key.toValue with
    | none =>
        have hmatch := List.find?_eq_none.mp hfound _ (Table.mem_entries.mpr hlookup)
        simp at hmatch
    | some entry =>
        obtain ⟨k, values⟩ := entry
        have hmatch := List.find?_some hfound
        obtain rfl : k = r.key := Key.toValue_injective (by simpa using hmatch)
        have hvalues := Table.mem_entries.mp (List.mem_of_find?_eq_some hfound)
        rw [hlookup] at hvalues
        cases hvalues
        rfl
  have hnames : (r.layout.fieldNames.zip old).map Prod.fst = r.layout.fieldNames := by
    have htypes := congrArg List.length (t.typed r.key old hlookup)
    rw [hlayout] at htypes
    exact List.map_fst_zip (by simpa using htypes.ge)
  have hvalues : (r.layout.fieldNames.zip old).map (fun field ↦
      ((r.layout.fieldNames.zip (updateRow r)).lookup field.1).getD field.2) = r.values :=
    map_given hnames hl.nodup_fieldNames
      (by rw [haligned.length_values, Layout.length_fieldNames])
      (fun name _ ↦ by rw [Record.zip_updateRow haligned]) _
  refine ⟨_, ?_, hlayouts, hcontents⟩
  simp only [write?, ht, hlayout, Option.bind_eq_bind, Option.bind_some, hbound, hlength,
    List.Subset.refl, and_true, if_true, hfind, hvalues, hstore]

end

theorem write?_delete {filter : Option KeyFilter} {params : List Value} {p : Key → Bool}
    (hdb : db.layouts l.table = some l)
    (hfilter : ∀ t : Table, t.layout = l → t.filter? filter params = some p) :
    ∃ db' n, db.write? (.delete l.table filter) params = some (db', n) ∧
      db'.layouts = db.layouts ∧ db'.contents = db.contents.without l.table p ∧
      Counts (fun k ↦ p k = true ∧ (db.contents l.table k).isSome) n := by
  obtain ⟨t, ht, hlayout⟩ := exists_table hdb
  refine ⟨db.set l.table (t.remove p), (t.rows.entries.filter fun entry ↦ p entry.1).length, ?_,
    layouts_set ht rfl, ?_, ?_⟩
  · simp only [write?, ht, Option.bind_eq_bind, Option.bind_some]
    rw [hfilter t hlayout]
    rfl
  · rw [contents_set]
    funext table k
    by_cases htable : table = l.table
    · subst htable
      simp [Contents.without, Table.lookup_remove, contents_eq ht]
    · simp [Contents.without, htable]
  · simpa only [contents_eq ht] using t.counts_filter p

/-! ## Batches of rows -/

/-- If a single statement overlays one record, a batch overlays its records. The statement may need
something of what stood under the key before. -/
theorem writeAll_overlay {c : Command} {records : List Record} (row : Record → Row)
    (Before : Option (List Value) → Prop) (hlayout : ∀ r ∈ records, r.layout = l)
    (hkeys : (records.map Record.key).Nodup)
    (hwrite : ∀ (db : Database), ∀ r ∈ records, db.layouts l.table = some l →
      Before (db.contents l.table r.key) → ∃ db', db.write? c (row r) = some (db', 1) ∧
        db'.layouts = db.layouts ∧ db'.contents = db.contents.overlay [r])
    (hdb : db.layouts l.table = some l)
    (hbefore : ∀ r ∈ records, Before (db.contents l.table r.key)) :
    ∃ db' counts, writeAll c db (records.map row) = (db', some counts) ∧
      db'.layouts = db.layouts ∧ db'.contents = db.contents.overlay records := by
  induction records generalizing db with
  | nil => exact ⟨db, [], rfl, rfl, rfl⟩
  | cons r records ih =>
      obtain ⟨hr, hrest⟩ := List.forall_mem_cons.mp hlayout
      obtain ⟨hkey, hkeys'⟩ := List.nodup_cons.mp hkeys
      obtain ⟨hbefore', hbeforeRest⟩ := List.forall_mem_cons.mp hbefore
      obtain ⟨db', hwritten, hlayouts, hcontents⟩ := hwrite db r List.mem_cons_self hdb hbefore'
      have hunchanged : ∀ r' ∈ records, db'.contents l.table r'.key
          = db.contents l.table r'.key := by
        intro r' hr'
        rw [hcontents, Contents.overlay_of_not_mem]
        simp only [List.mem_singleton, forall_eq]
        exact fun _ hsame ↦ hkey (List.mem_map.mpr ⟨r', hr', hsame.symm⟩)
      obtain ⟨db'', counts, hrestWritten, hlayouts', hcontents'⟩ :=
        ih hrest hkeys' (fun db r hr ↦ hwrite db r (List.mem_cons_of_mem _ hr))
          (by rw [hlayouts, hdb]) fun r' hr' ↦ by
            rw [hunchanged r' hr']
            exact hbeforeRest r' hr'
      refine ⟨db'', 1 :: counts, ?_, hlayouts'.trans hlayouts, ?_⟩
      · simp only [List.map_cons, writeAll, hwritten, hrestWritten, Option.map_some]
      · rw [hcontents', hcontents]
        refine Contents.overlay_overlay _ hkeys (fun r' ↦ ?_) (by simp) hkeys'
        rw [List.mem_cons, List.mem_singleton]

end Database

end RecordStore
