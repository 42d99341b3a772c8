import RecordStore.Proofs.Drafts
import RecordStore.Sqlite.Connection

namespace RecordStore.Sqlite

/-!
# Tables under commands

Every row of a table has a cell for each of its columns, which is what the column has made of some
cell. A row is accepted at that width and converted, an update puts an accepted row in the place of
each row it selects, and so no command and no call breaks the rule, whatever has happened on the
connection before.
-/

namespace Table

/-- Every row is what the columns have made of a cell for each of them. -/
def Converted (t : Table) : Prop :=
  ∀ row ∈ t.rows, ∃ given : List Cell, given.length = t.columns.length ∧ row = t.convert given

variable {t : Table} {others : List (List Cell)} {row settled stored : List Cell}

theorem length_settleKey (h : t.settleKey row = .ok settled) : settled.length = row.length := by
  unfold settleKey at h
  split at h
  · obtain ⟨c, -, rfl⟩ := map_eq_ok.mp h
    exact List.length_set
  · cases h
    rfl

theorem length_convert (t : Table) (row : List Cell) :
    (t.convert row).length = min t.columns.length row.length := by
  rw [convert, List.length_map, List.length_zip]

theorem accept_eq_ok : t.accept others row = .ok stored ↔
    ∃ settled, t.settleKey row = .ok settled ∧ stored = t.convert settled ∧
      t.checkRequired stored = .ok () ∧ t.checkUnique others stored = .ok () := by
  simp only [accept, bind_eq_ok]
  constructor
  · rintro ⟨settled, hsettled, _, hrequired, _, hunique, hstored⟩
    obtain rfl : t.convert settled = stored := Except.ok.inj hstored
    exact ⟨settled, hsettled, rfl, hrequired, hunique⟩
  · rintro ⟨settled, hsettled, rfl, hrequired, hunique⟩
    exact ⟨settled, hsettled, (), hrequired, (), hunique, rfl⟩

/-- No cell is missing from a column that requires one. -/
theorem checkRequired_eq_ok : t.checkRequired row = .ok () ↔
    ∀ column c, (column, c) ∈ t.columns.zip row → column.isRequired = true → c ≠ .null := by
  unfold checkRequired
  split
  · next column c hfound =>
    have hmissing := List.find?_some hfound
    simp only [Bool.and_eq_true, beq_iff_eq] at hmissing
    constructor
    · rintro ⟨⟩
    · intro hall
      exact absurd hmissing.2 (hall _ _ (List.mem_of_find?_eq_some hfound) hmissing.1)
  · next hnone =>
    rw [List.find?_eq_none] at hnone
    simpa using hnone

theorem mem_uniqueColumns {column : Column} {index : Nat} : (column, index) ∈ t.uniqueColumns ↔
    t.columns[index]? = some column ∧ column.role ≠ .plain := by
  simp only [uniqueColumns, List.mem_append, List.mem_reverse, List.mem_filter,
    List.mem_zipIdx_iff_getElem?]
  cases column.role <;> simp

/-- No other row holds the same cell in a column that must be unique. -/
theorem checkUnique_eq_ok : t.checkUnique others row = .ok () ↔
    ∀ column index, (column, index) ∈ t.uniqueColumns → ∀ other ∈ others,
      (cell other index).matchesCell (cell row index) = false := by
  unfold checkUnique
  split
  · next column index hfound =>
    have hrepeated := List.find?_some hfound
    obtain ⟨other, hother, hsame⟩ := List.any_eq_true.mp hrepeated
    constructor
    · split <;> rintro ⟨⟩
    · intro hall
      rw [hall _ _ (List.mem_of_find?_eq_some hfound) other hother] at hsame
      cases hsame
  · next hnone =>
    rw [List.find?_eq_none] at hnone
    simpa using hnone

theorem Converted.length (h : t.Converted) (hrow : row ∈ t.rows) :
    row.length = t.columns.length := by
  obtain ⟨given, hgiven, rfl⟩ := h row hrow
  rw [length_convert, hgiven, Nat.min_self]

theorem exists_given_of_accept (hrow : row.length = t.columns.length)
    (h : t.accept others row = .ok stored) :
    ∃ given : List Cell, given.length = t.columns.length ∧ stored = t.convert given := by
  obtain ⟨settled, hsettled, rfl, -, -⟩ := accept_eq_ok.mp h
  exact ⟨settled, (length_settleKey hsettled).trans hrow, rfl⟩

theorem perm_sortedBy (index : Nat) (rows : List (List Cell)) :
    (sortedBy index rows).Perm rows :=
  List.mergeSort_perm _ _

theorem perm_inOrder (t : Table) (rows : List (List Cell)) : (t.inOrder rows).Perm rows := by
  unfold inOrder
  split
  · exact perm_sortedBy _ _
  · exact .refl _

theorem insert_eq_ok {t' : Table} : t.insert row = .ok t' ↔
    ∃ stored, t.accept t.rows row = .ok stored ∧
      t' = { t with rows := t.inOrder (t.rows ++ [stored]) } := by
  simp only [insert, bind_eq_ok]
  constructor
  · rintro ⟨stored, hstored, h⟩
    exact ⟨stored, hstored, (Except.ok.inj h).symm⟩
  · rintro ⟨stored, hstored, rfl⟩
    exact ⟨stored, hstored, rfl⟩

/-- What an update makes of a row. -/
def Updates (t : Table) (selects : List Cell → Bool) (change : List Cell → List Cell)
    (row row' : List Cell) : Prop :=
  if selects row = true then ∃ others, t.accept others (change row) = .ok row' else row' = row

variable {selects : List Cell → Bool} {change : List Cell → List Cell}

theorem updateFrom_eq_ok {done rows rows' : List (List Cell)} {count : Nat}
    (h : t.updateFrom selects change done rows = .ok (rows', count)) :
    ∃ rest, rows' = done ++ rest ∧ List.Forall₂ (t.Updates selects change) rows rest := by
  induction rows generalizing done rows' count with
  | nil =>
      cases h
      exact ⟨[], (List.append_nil _).symm, .nil⟩
  | cons row rows ih =>
      unfold updateFrom at h
      split at h
      · next hselected =>
        obtain ⟨changed, hchanged, h⟩ := bind_eq_ok.mp h
        obtain ⟨⟨rows'', count'⟩, hrest, h⟩ := bind_eq_ok.mp h
        cases h
        obtain ⟨rest, rfl, hupdates⟩ := ih hrest
        refine ⟨changed :: rest, by simp, .cons ?_ hupdates⟩
        rw [Updates, if_pos hselected]
        exact ⟨_, hchanged⟩
      · next hkept =>
        obtain ⟨rest, rfl, hupdates⟩ := ih h
        refine ⟨row :: rest, by simp, .cons ?_ hupdates⟩
        rw [Updates, if_neg hkept]

theorem update_eq_ok {t' : Table} {count : Nat} (h : t.update selects change = .ok (t', count)) :
    ∃ rows, t' = { t with rows := t.inOrder rows } ∧
      List.Forall₂ (t.Updates selects change) t.rows rows := by
  obtain ⟨⟨rows, count'⟩, hrows, h⟩ := bind_eq_ok.mp h
  cases h
  obtain ⟨rest, hrest, hupdates⟩ := updateFrom_eq_ok hrows
  rw [List.nil_append] at hrest
  exact ⟨rows, rfl, hrest ▸ hupdates⟩

/-! ## Converted tables -/

theorem Converted.insert {t' : Table} (h : t.Converted) (hrow : row.length = t.columns.length)
    (hinsert : t.insert row = .ok t') : t'.Converted := by
  obtain ⟨stored, hstored, rfl⟩ := insert_eq_ok.mp hinsert
  intro other hother
  rcases List.mem_append.mp ((perm_inOrder t _).mem_iff.mp hother) with hold | hnew
  · exact h other hold
  · rw [List.mem_singleton.mp hnew]
    exact exists_given_of_accept (t := t) hrow hstored

theorem Converted.update {t' : Table} {count : Nat} (h : t.Converted)
    (hchange : ∀ row, (change row).length = row.length)
    (hupdate : t.update selects change = .ok (t', count)) : t'.Converted := by
  obtain ⟨rows, rfl, hupdates⟩ := update_eq_ok hupdate
  intro row' hrow'
  obtain ⟨row, hrow, hmade⟩ := exists_of_forall₂ hupdates ((perm_inOrder t _).mem_iff.mp hrow')
  unfold Updates at hmade
  split at hmade
  · obtain ⟨others, hstored⟩ := hmade
    exact exists_given_of_accept (t := t) ((hchange row).trans (h.length hrow)) hstored
  · rw [hmade]
    exact h row hrow

theorem Converted.delete (h : t.Converted) : (t.delete selects).1.Converted := by
  intro row hrow
  rw [Table.delete, List.partition_eq_filter_filter] at hrow
  exact h row (List.mem_filter.mp hrow).1

end Table

namespace Database

variable {d : Database} {params : List Cell}

theorem length_insertedRow (t : Table) (targets : List Nat) (params : List Cell) :
    (insertedRow t targets params).length = t.columns.length := by
  rw [insertedRow, List.length_map, List.length_range]

theorem length_updatedRow (targets : List Nat) (params row : List Cell) :
    (updatedRow targets params row).length = row.length := by
  unfold updatedRow
  generalize targets.zipIdx 1 = writes
  induction writes generalizing row with
  | nil => rfl
  | cons write writes ih => rw [List.foldl_cons, ih, List.length_set]

def Converted (d : Database) : Prop :=
  ∀ t ∈ d, t.Converted

theorem Converted.replace {t : Table} (h : d.Converted) (ht : t.Converted) : (d.replace t).Converted := by
  intro t' ht'
  obtain ⟨old, hold, rfl⟩ := List.mem_map.mp ht'
  split
  · exact ht
  · exact h old hold

theorem mem_of_find {name : TableName} {t : Table} (h : d.find name = .ok t) : t ∈ d := by
  unfold find at h
  split at h
  · next hfound =>
    cases h
    exact List.mem_of_find?_eq_some hfound
  · cases h

theorem Converted.run {command : Sql.Command} {e : Effect} (h : d.Converted)
    (hrun : d.run command params = .ok e) : e.database.Converted := by
  unfold Database.run at hrun
  dsimp only at hrun
  split at hrun
  · cases hrun
  cases command with
  | select columns table filter =>
      obtain ⟨t, -, hrun⟩ := bind_eq_ok.mp hrun
      cases hrun
      exact h
  | count table =>
      obtain ⟨t, -, hrun⟩ := bind_eq_ok.mp hrun
      cases hrun
      exact h
  | insert table columns places =>
      obtain ⟨t, ht, hrun⟩ := bind_eq_ok.mp hrun
      obtain ⟨places, -, hrun⟩ := bind_eq_ok.mp hrun
      obtain ⟨t', hinsert, hrun⟩ := bind_eq_ok.mp hrun
      cases hrun
      exact h.replace ((h t (mem_of_find ht)).insert (length_insertedRow t places params) hinsert)
  | update table columns key =>
      obtain ⟨t, ht, hrun⟩ := bind_eq_ok.mp hrun
      obtain ⟨places, -, hrun⟩ := bind_eq_ok.mp hrun
      obtain ⟨⟨t', count⟩, hupdate, hrun⟩ := bind_eq_ok.mp hrun
      cases hrun
      exact h.replace ((h t (mem_of_find ht)).update (length_updatedRow places params) hupdate)
  | delete table filter =>
      obtain ⟨t, ht, hrun⟩ := bind_eq_ok.mp hrun
      cases hrun
      exact h.replace (h t (mem_of_find ht)).delete

theorem Converted.create {d' : Database} {name : String} {columns : List (String × String)}
    (h : d.Converted) (hcreate : d.create name columns = .ok d') : d'.Converted := by
  unfold Database.create at hcreate
  simp only at hcreate
  split at hcreate
  · cases hcreate
  split at hcreate
  · cases hcreate
  obtain ⟨_, -, hcreate⟩ := bind_eq_ok.mp hcreate
  cases hcreate
  intro t ht
  rcases List.mem_append.mp ht with hold | hnew
  · exact h t hold
  · rw [List.mem_singleton.mp hnew]
    exact nofun

end Database

namespace Connection

variable {c c' : Connection}

/-- The connections that creating tables and answering calls lead to. -/
inductive Reachable : Connection → Prop
  | opened : Reachable (.opened [])
  | createTable {c c' : Connection} {name : String} {columns : List (String × String)} :
    Reachable c → c.createTable name columns = .ok c' → Reachable c'
  | answer {c : Connection} {k : ReplyKind} (call : Call String k) :
    Reachable c → Reachable (c.answer call).2

/-- Every table is converted, in the transaction that is open as well. -/
structure Converted (c : Connection) : Prop where
  committed : c.committed.Converted
  pending : ∀ d ∈ c.pending, Database.Converted d

theorem Converted.current (h : c.Converted) (inTransaction : Bool) : (c.current inTransaction).Converted := by
  cases hpending : c.pending with
  | none => cases inTransaction <;> simpa [Connection.current, hpending] using h.committed
  | some d =>
      have hd : d.Converted := h.pending d hpending
      cases inTransaction
      · simpa [Connection.current] using h.committed
      · simpa [Connection.current, hpending] using hd

theorem Converted.store (h : c.Converted) {d : Database} (hd : d.Converted) (inTransaction : Bool) :
    (c.store inTransaction d).Converted := by
  unfold Connection.store
  split
  · refine ⟨h.committed, ?_⟩
    rintro _ ⟨⟩
    exact hd
  · exact ⟨hd, h.pending⟩

theorem Converted.of_changed (h : c.Converted) (changed : Nat) : Converted { c with changed } :=
  ⟨h.committed, h.pending⟩

theorem Converted.execute (h : c.Converted) (inTransaction : Bool) (sql : String) (params : List Value) :
    (c.execute inTransaction sql params).2.Converted := by
  unfold Connection.execute
  split
  · exact h
  · split
    · next hrun => exact (h.store ((h.current inTransaction).run hrun) inTransaction).of_changed _
    · dsimp only
      split
      · exact h.of_changed 0
      · exact h

theorem Converted.write (h : c.Converted) (inTransaction : Bool) (sql : String) (params : List Value) :
    (c.write inTransaction sql params).2.Converted := by
  have hexecute := h.execute inTransaction sql params
  unfold Connection.write
  split <;> next heq => simpa [heq] using hexecute

theorem Converted.writeRows (h : c.Converted) (inTransaction : Bool) (sql : String) (rows : List Row) :
    (c.writeRows inTransaction sql rows).2.Converted := by
  induction rows generalizing c with
  | nil => exact h
  | cons params rows ih =>
      have hwrite := h.write inTransaction sql params
      unfold Connection.writeRows
      split
      · next heq =>
        rw [heq] at hwrite
        exact ih hwrite
      · next heq =>
        rw [heq] at hwrite
        exact hwrite

theorem Converted.answer (h : c.Converted) {k : ReplyKind} (call : Call String k) :
    (c.answer call).2.Converted := by
  cases call with
  | query inTransaction sql params shape =>
      have hexecute := h.execute inTransaction sql params
      unfold Connection.answer Connection.query
      dsimp only
      split <;> next heq => simpa [heq] using hexecute
  | write inTransaction sql params => exact h.write inTransaction sql params
  | batchWrite inTransaction sql rows =>
      have hwrite := h.writeRows inTransaction sql rows
      unfold Connection.answer Connection.batchWrite
      dsimp only
      split
      · next heq => simpa [heq] using hwrite
      · next heq =>
        rw [heq] at hwrite
        dsimp only
        split
        · exact hwrite
        · exact h.of_changed _
  | openTransaction isolation =>
      refine ⟨h.committed, ?_⟩
      rintro _ ⟨⟩
      exact h.committed
  | commit => exact ⟨h.current true, nofun⟩
  | rollback => exact ⟨h.committed, nofun⟩

/-- Whatever has happened on a connection, its tables are converted. -/
theorem Reachable.converted (h : c.Reachable) : c.Converted := by
  induction h with
  | opened => exact ⟨nofun, nofun⟩
  | createTable _ hcreate ih =>
      unfold Connection.createTable at hcreate
      split at hcreate
      · next hd =>
        cases hcreate
        exact ⟨ih.committed.create hd, ih.pending⟩
      · cases hcreate
  | answer call _ ih => exact ih.answer call

end Connection

end RecordStore.Sqlite
