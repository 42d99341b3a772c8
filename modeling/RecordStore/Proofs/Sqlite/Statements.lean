import RecordStore.Proofs.Sql.Read
import RecordStore.Proofs.Sqlite.Rows
import RecordStore.Statement

namespace RecordStore.Sqlite

open Database (operand insertedRow updatedRow parameter targets)
open Sql (Command KeyFilter)

/-!
# Statements of a layout on its table

A statement that is read back from its text is carried out on the table that its name finds. A
question for a key brings back the rows under the key and changes nothing; an insertion and an
update leave a database in which the name finds the table they make.
-/

namespace Table

variable {t : Table} {l : Layout}

/-- Whether a filter with the key lets the row through. -/
def isUnder (t : Table) (l : Layout) (key : Key) (cells : List Cell) : Bool :=
  (operand t l.keyColumn).equals cells (.ofValue key.toValue)

/-- Whether a filter with the keys lets the row through. -/
def isAmong (t : Table) (l : Layout) (keys : List Key) (cells : List Cell) : Bool :=
  keys.any fun key ↦ t.isUnder l key cells

/-- The rows that a question for keys brings back, in its order. -/
def among (t : Table) (l : Layout) (keys : List Key) : List (List Cell) :=
  Database.filtered t ((keys.map Key.toValue).map .ofValue) ⟨l.keyColumn, keys.length⟩

/-- The rows that a question for a key brings back. -/
def under (t : Table) (l : Layout) (key : Key) : List (List Cell) :=
  t.among l [key]

/-- A filter lets the rows through that are under one of the keys. -/
theorem passes_keys (t : Table) (l : Layout) (keys : List Key) :
    Database.passes t ((keys.map Key.toValue).map .ofValue) ⟨l.keyColumn, keys.length⟩
      = t.isAmong l keys := by
  funext cells
  rw [Bool.eq_iff_iff, Database.passes, isAmong, List.any_eq_true, List.any_eq_true]
  have hplace {i : Nat} {key : Key} (hi : keys[i]? = some key) :
      parameter ((keys.map Key.toValue).map .ofValue) (i + 1) = .ofValue key.toValue := by
    simp [parameter, hi]
  constructor
  · rintro ⟨i, hi, hequals⟩
    obtain ⟨key, hkey⟩ : ∃ key, keys[i]? = some key :=
      ⟨_, List.getElem?_eq_getElem (List.mem_range.mp hi)⟩
    rw [hplace hkey] at hequals
    exact ⟨key, List.mem_of_getElem? hkey, hequals⟩
  · rintro ⟨key, hkey, hunder⟩
    obtain ⟨i, hi⟩ := List.mem_iff_getElem?.mp hkey
    refine ⟨i, List.mem_range.mpr (List.getElem?_eq_some_iff.mp hi).1, ?_⟩
    rw [hplace hi]
    exact hunder

theorem among_perm (t : Table) (l : Layout) (keys : List Key) :
    (t.among l keys).Perm (t.rows.filter (t.isAmong l keys)) := by
  unfold among Database.filtered
  rw [passes_keys]
  split
  · split
    · exact perm_sortedBy _ _
    · exact .refl _
  · exact .refl _

theorem under_perm (t : Table) (l : Layout) (key : Key) :
    (t.under l key).Perm (t.rows.filter (t.isUnder l key)) := by
  have hone : t.isAmong l [key] = t.isUnder l key := funext fun cells ↦ Bool.or_false _
  rw [← hone]
  exact t.among_perm l [key]

theorem perm_scan (t : Table) (indices : List Nat) : (t.scan indices).Perm t.rows := by
  unfold scan
  split
  · exact perm_sortedBy _ _
  · exact .refl _

theorem mem_under {key : Key} {cells : List Cell} :
    cells ∈ t.under l key ↔ cells ∈ t.rows ∧ t.isUnder l key cells = true := by
  rw [(t.under_perm l key).mem_iff, List.mem_filter]

theorem Declares.key (h : t.Declares l) :
    ∃ index c, t.Finds l.keyColumn index c ∧ c.affinity = l.keyType.fieldType.affinity :=
  h.affinity (l.keyColumn, l.keyType.fieldType) List.mem_cons_self

/-- A row is under a key if its cell for the key matches the cell of the key. -/
theorem isUnder_eq (h : t.Declares l) {key : Key} (hkey : key.keyType = l.keyType) {index : Nat}
    {c : Column} (hfinds : t.Finds l.keyColumn index c) {cells : List Cell} :
    t.isUnder l key cells = (cell cells index).matchesCell (.ofValue key.toValue) := by
  obtain ⟨index', c', hfinds', haffinity⟩ := h.key
  obtain ⟨rfl, rfl⟩ := hfinds.unique hfinds'
  have hcell : c.affinity.applyForComparison (.ofValue key.toValue) = .ofValue key.toValue := by
    rw [haffinity, ← hkey]
    cases key <;> rfl
  rw [isUnder, hfinds.operand, Database.Operand.equals, hcell]

theorem targets_eq_ok {columns : List String} {missing : String → Refusal} {places : List Nat} :
    targets t columns missing = .ok places ↔ columns.map t.columnIndex? = places.map some := by
  rw [targets, mapM_eq_ok, ← List.forall₂_eq_eq_eq, List.forall₂_map_left_iff,
    List.forall₂_map_right_iff]
  refine Eq.to_iff (congrArg (fun R ↦ List.Forall₂ R columns places) ?_)
  funext name index
  cases t.columnIndex? name <;> simp

theorem Declares.exists_places (h : t.Declares l) {columns : List String}
    (hsub : columns ⊆ l.columns) :
    ∃ places : List Nat, columns.map t.columnIndex? = places.map some := by
  induction columns with
  | nil => exact ⟨[], rfl⟩
  | cons name columns ih =>
      obtain ⟨hname, hrest⟩ := List.cons_subset.mp hsub
      obtain ⟨index, c, hfinds⟩ := h.finds hname
      obtain ⟨places, hplaces⟩ := ih hrest
      exact ⟨index :: places, by rw [List.map_cons, List.map_cons, hfinds.1, hplaces]⟩

end Table

/-! ## Databases -/

namespace Database

variable {d : Database} {name : TableName} {t t' : Table}

theorem find_replace (h : d.find name = .ok t) (hname : t'.name = t.name) :
    (d.replace t').find name = .ok t' := by
  unfold find at h ⊢
  cases hfound : d.find? fun table ↦ inMain name && Text.sameLetters table.name name.name with
  | none =>
      rw [hfound] at h
      cases h
  | some found =>
      rw [hfound] at h
      obtain rfl : found = t := Except.ok.inj h
      have hsame : ((fun table : Table ↦ inMain name && Text.sameLetters table.name name.name)
          ∘ fun t ↦ if t.name = t'.name then t' else t)
            = fun table ↦ inMain name && Text.sameLetters table.name name.name := by
        funext table
        by_cases heq : table.name = t'.name <;> simp [heq]
      rw [replace, List.find?_map, hsame, hfound, Option.map_some, if_pos hname.symm]

theorem exists_find_of_select {columns : List String} {filter : Option KeyFilter}
    {params : List Cell} {e : Effect} (h : d.run (.select columns name filter) params = .ok e) :
    ∃ t, d.find name = .ok t := by
  unfold run at h
  by_cases hplaces : Refusal.maxPlaces < placeCount (.select columns name filter)
  · rw [if_pos hplaces] at h
    cases h
  · rw [if_neg hplaces] at h
    obtain ⟨t, ht, -⟩ := bind_eq_ok.mp h
    exact ⟨t, ht⟩

/-- A command with more places than there are numbers for is not carried out. -/
theorem run_of_tooManyPlaces {command : Command} (h : Refusal.maxPlaces < placeCount command)
    (params : List Cell) : d.run command params = .error .tooManyPlaces := by
  unfold run
  rw [if_pos h]
  rfl

section

variable {columns : List String} {places : List Nat} {params : List Cell} {e : Effect}
  (ht : d.find name = .ok t)

include ht

theorem run_select_all (columns : List String) (params : List Cell) :
    ∃ indices, d.run (.select columns name none) params
      = .ok ⟨(t.scan indices).map fun cells ↦
          columns.map fun column ↦ (operand t column).cell cells, none, d⟩ := by
  have hfits : ¬ Refusal.maxPlaces < placeCount (.select columns name none) := Nat.not_lt_zero _
  refine ⟨(columns.map (operand t)).filterMap Operand.index?, ?_⟩
  unfold run
  rw [if_neg hfits]
  dsimp only
  rw [ht]
  refine congrArg (fun rows ↦ Except.ok (Effect.mk rows none d)) ?_
  simp only [List.map_map, Function.comp_def]

section

variable {filter : KeyFilter} (hfits : filter.count ≤ Refusal.maxPlaces)

include hfits

theorem run_select_some : d.run (.select columns name (some filter)) params
    = .ok ⟨(filtered t params filter).map fun cells ↦
        columns.map fun column ↦ (operand t column).cell cells, none, d⟩ := by
  have hplaces : ¬ Refusal.maxPlaces < placeCount (.select columns name (some filter)) :=
    Nat.not_lt.mpr hfits
  unfold run
  rw [if_neg hplaces]
  dsimp only
  rw [ht]
  refine congrArg (fun rows ↦ Except.ok (Effect.mk rows none d)) ?_
  simp only [List.map_map, Function.comp_def]

theorem run_delete_some : d.run (.delete name (some filter)) params
    = .ok ⟨[], some (t.delete (passes t params filter)).2,
        d.replace (t.delete (passes t params filter)).1⟩ := by
  have hplaces : ¬ Refusal.maxPlaces < placeCount (.delete name (some filter)) :=
    Nat.not_lt.mpr hfits
  unfold run
  rw [if_neg hplaces]
  dsimp only
  rw [ht]
  rfl

end

variable (hplaces : columns.map t.columnIndex? = places.map some)

include hplaces

theorem run_insert_eq_ok {count : Nat} :
    d.run (.insert name columns count) params = .ok e ↔ count ≤ Refusal.maxPlaces ∧
      ∃ t', t.insert (insertedRow t places params) = .ok t' ∧
        e = ⟨[], some 1, d.replace t'⟩ := by
  have htargets : targets t columns (.noInsertColumn (writtenName name)) = .ok places :=
    Table.targets_eq_ok.mpr hplaces
  unfold run
  by_cases hcount : Refusal.maxPlaces < placeCount (.insert name columns count)
  · rw [if_pos hcount]
    exact iff_of_false nofun fun h ↦ Nat.not_lt.mpr h.1 hcount
  · have hfits : count ≤ Refusal.maxPlaces := Nat.not_lt.mp hcount
    rw [if_neg hcount, and_iff_right hfits]
    dsimp only
    simp only [bind_eq_ok]
    constructor
    · rintro ⟨found, hfound, targeted, htargeted, t', ht', he⟩
      obtain rfl : found = t := Except.ok.inj (hfound.symm.trans ht)
      obtain rfl : targeted = places := Except.ok.inj (htargeted.symm.trans htargets)
      exact ⟨t', ht', (Except.ok.inj he).symm⟩
    · rintro ⟨t', ht', rfl⟩
      exact ⟨t, ht, places, htargets, t', ht', rfl⟩

theorem run_update_eq_ok {key : String} :
    d.run (.update name columns key) params = .ok e ↔ columns.length + 1 ≤ Refusal.maxPlaces ∧
      ∃ t' count, t.update (fun cells ↦ (operand t key).equals cells
          (parameter params (columns.length + 1))) (updatedRow places params) = .ok (t', count) ∧
        e = ⟨[], some count, d.replace t'⟩ := by
  have htargets : targets t columns .noColumn = .ok places := Table.targets_eq_ok.mpr hplaces
  unfold run
  by_cases hcount : Refusal.maxPlaces < placeCount (.update name columns key)
  · rw [if_pos hcount]
    exact iff_of_false nofun fun h ↦ Nat.not_lt.mpr h.1 hcount
  · have hfits : columns.length + 1 ≤ Refusal.maxPlaces := Nat.not_lt.mp hcount
    rw [if_neg hcount, and_iff_right hfits]
    dsimp only
    simp only [bind_eq_ok]
    constructor
    · rintro ⟨found, hfound, targeted, htargeted, ⟨t', count⟩, ht', he⟩
      obtain rfl : found = t := Except.ok.inj (hfound.symm.trans ht)
      obtain rfl : targeted = places := Except.ok.inj (htargeted.symm.trans htargets)
      exact ⟨t', count, ht', (Except.ok.inj he).symm⟩
    · rintro ⟨t', count, ht', rfl⟩
      exact ⟨t, ht, places, htargets, (t', count), ht', rfl⟩

end

end Database

/-! ## Connections -/

section

variable (c : Connection) (inTransaction : Bool) (sql : String)

theorem answer_query (params : List Value) (shape : List FieldType) :
    Surface.sqlite.answer (.query inTransaction sql params shape) c
      = c.query inTransaction sql params shape := rfl

theorem answer_write (params : List Value) :
    Surface.sqlite.answer (.write inTransaction sql params) c
      = c.write inTransaction sql params := rfl

theorem answer_batchWrite (rows : List Row) :
    Surface.sqlite.answer (.batchWrite inTransaction sql rows) c
      = c.batchWrite inTransaction sql rows := rfl

end

namespace Connection

variable {c c' : Connection} {inTransaction : Bool} {command : Command} {params : List Value}

theorem current_store (c : Connection) (inTransaction : Bool) (d : Database) :
    (c.store inTransaction d).current inTransaction = d := by
  obtain ⟨committed, pending, changed⟩ := c
  cases inTransaction <;> cases pending <;> rfl

theorem store_current (c : Connection) (inTransaction : Bool) :
    c.store inTransaction (c.current inTransaction) = c := by
  obtain ⟨committed, pending, changed⟩ := c
  cases inTransaction <;> cases pending <;> rfl

theorem execute_render (h : command.Listed) :
    c.execute inTransaction (command.render .sqlite) params
      = match (c.current inTransaction).run command (params.map Cell.ofValue) with
        | .ok e => (.ok e.rows,
            { c.store inTransaction e.database with changed := e.changed.getD c.changed })
        | .error refusal =>
            (.error refusal, if refusal.isOfRow then { c with changed := 0 } else c) := by
  unfold execute
  rewrite [Command.read?_render h]
  rfl

/-- A command is carried out on the database that it is sent to, and what it leaves takes the place
of the database. -/
theorem write_eq_ok (h : command.Listed) {count : Nat} :
    c.write inTransaction (command.render .sqlite) params = (.ok count, c') ↔
      ∃ e, (c.current inTransaction).run command (params.map Cell.ofValue) = .ok e ∧
        count = e.changed.getD c.changed ∧
        c' = { c.store inTransaction e.database with changed := count } := by
  unfold write
  rw [execute_render h]
  cases (c.current inTransaction).run command (params.map Cell.ofValue) with
  | error refusal => exact iff_of_false nofun nofun
  | ok e =>
      constructor
      · rintro ⟨⟩
        exact ⟨e, rfl, rfl, rfl⟩
      · rintro ⟨_, ⟨⟩, rfl, rfl⟩
        rfl

theorem current_of_write (h : command.Listed) {count : Nat}
    (hwrite : c.write inTransaction (command.render .sqlite) params = (.ok count, c')) :
    ∃ e, (c.current inTransaction).run command (params.map Cell.ofValue) = .ok e ∧
      c'.current inTransaction = e.database := by
  obtain ⟨e, he, -, rfl⟩ := (write_eq_ok h).mp hwrite
  exact ⟨e, he, c.current_store inTransaction e.database⟩

theorem batchWrite_singleton_eq_ok {sql : String} {row : Row} {counts : List Nat} :
    c.batchWrite inTransaction sql [row] = (.ok counts, c') ↔
      ∃ count, c.write inTransaction sql row = (.ok count, c') ∧ counts = [count] := by
  unfold batchWrite writeRows
  cases hwrite : c.write inTransaction sql row with
  | mk outcome after =>
      cases outcome with
      | error e =>
          constructor
          · rintro ⟨⟩
          · rintro ⟨_, ⟨⟩, -⟩
      | ok count =>
          constructor
          · rintro ⟨⟩
            exact ⟨count, rfl, rfl⟩
          · rintro ⟨_, ⟨⟩, rfl⟩
            rfl

theorem write_of_tooManyPlaces (h : command.Listed)
    (hmany : Refusal.maxPlaces < Database.placeCount command) :
    c.write inTransaction (command.render .sqlite) params
      = (.error Refusal.tooManyPlaces.toError, c) := by
  unfold write
  rw [execute_render h, Database.run_of_tooManyPlaces hmany]
  rfl

theorem exists_find_of_query {columns : List String} {name : TableName}
    (hcolumns : columns ≠ []) {shape : List FieldType} {rows : List Row}
    (h : (c.query inTransaction ((Command.select columns name none).render .sqlite) params shape).1
      = .ok rows) : ∃ t, (c.current inTransaction).find name = .ok t := by
  have hlisted : (Command.select columns name none).Listed := ⟨hcolumns, nofun⟩
  unfold query at h
  rw [execute_render hlisted] at h
  cases hrun : (c.current inTransaction).run (.select columns name none)
      (params.map Cell.ofValue) with
  | error refusal =>
      rw [hrun] at h
      cases h
  | ok e => exact Database.exists_find_of_select hrun

variable {t : Table} {l : Layout} (ht : (c.current inTransaction).find l.table = .ok t)

include ht

/-- A question for keys answers with the cells of the rows under them and changes nothing. -/
theorem query_among {columns : List String} (hcolumns : columns ≠ []) {keys : List Key}
    (hkeys : keys ≠ []) (hfits : keys.length ≤ Refusal.maxPlaces) (shape : List FieldType) :
    c.query inTransaction ((Command.select columns l.table
        (some ⟨l.keyColumn, keys.length⟩)).render .sqlite) (keys.map Key.toValue) shape
      = (((t.among l keys).map fun cells ↦
          columns.map fun name ↦ (operand t name).cell cells).mapM (decodeRow shape), c) := by
  have hlisted : (Command.select columns l.table (some ⟨l.keyColumn, keys.length⟩)).Listed :=
    ⟨hcolumns, by simp [KeyFilter.Listed, hkeys]⟩
  unfold query
  rw [execute_render hlisted, Database.run_select_some ht hfits]
  dsimp only
  rw [c.store_current inTransaction]
  rfl

theorem query_under {columns : List String} (hcolumns : columns ≠ []) (key : Key)
    (shape : List FieldType) :
    c.query inTransaction ((Command.select columns l.table
        (some ⟨l.keyColumn, 1⟩)).render .sqlite) [key.toValue] shape
      = (((t.under l key).map fun cells ↦
          columns.map fun name ↦ (operand t name).cell cells).mapM (decodeRow shape), c) :=
  query_among ht hcolumns (List.cons_ne_nil key []) (by decide : 1 ≤ Refusal.maxPlaces) shape

/-- A question for everything answers with the cells of all rows and changes nothing. -/
theorem query_all {columns : List String} (hcolumns : columns ≠ []) (shape : List FieldType) :
    ∃ rows : List (List Cell), rows.Perm t.rows ∧
      c.query inTransaction ((Command.select columns l.table none).render .sqlite) [] shape
        = ((rows.map fun cells ↦
            columns.map fun name ↦ (operand t name).cell cells).mapM (decodeRow shape), c) := by
  have hlisted : (Command.select columns l.table none).Listed := ⟨hcolumns, nofun⟩
  obtain ⟨indices, hrun⟩ := Database.run_select_all ht columns []
  refine ⟨t.scan indices, t.perm_scan indices, ?_⟩
  unfold query
  rw [execute_render hlisted, List.map_nil, hrun]
  dsimp only
  rw [c.store_current inTransaction]
  rfl

/-- A deletion of keys leaves the rows that are under none of them and counts the others. -/
theorem write_delete {keys : List Key} (hkeys : keys ≠ [])
    (hfits : keys.length ≤ Refusal.maxPlaces) :
    c.write inTransaction ((Command.delete l.table (some ⟨l.keyColumn, keys.length⟩)).render .sqlite)
        (keys.map Key.toValue)
      = (.ok (t.delete (t.isAmong l keys)).2,
          { c.store inTransaction ((c.current inTransaction).replace
              (t.delete (t.isAmong l keys)).1) with changed := (t.delete (t.isAmong l keys)).2 }) := by
  have hlisted : (Command.delete l.table (some ⟨l.keyColumn, keys.length⟩)).Listed := by
    simp [Command.Listed, KeyFilter.Listed, hkeys]
  rw [← t.passes_keys l keys]
  exact (write_eq_ok hlisted).mpr ⟨_, Database.run_delete_some ht hfits, rfl, rfl⟩

end Connection

end RecordStore.Sqlite
