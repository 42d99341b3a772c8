import RecordStore.Proofs.KeyedMap
import RecordStore.Proofs.Sqlite.Keys

namespace RecordStore

open Sql (Command)
open Store (changedRows ensures_inTransaction existingKeys fetchChunks inDialect_keysQuery insertRow
  keysQuery mapM_insertRow newRows updateRow upsert_eq writeRows)

/-!
# Records that are stored and read back

A record that is stored on a table that is declared for its layout is looked up by its key, inserted
or updated inside a transaction, and after the commit the table keeps it: reading it by its key
finds a record that is equal, up to leap seconds inside a minute.
-/

/-! ## Records that agree -/

theorem Value.fieldType_of_agrees {v w : Value} (h : v.agrees w = true) :
    v.fieldType = w.fieldType := by
  unfold agrees at h
  split at h
  · rfl
  · rw [beq_iff_eq.mp h]

theorem Key.eq_of_agrees {key : Key} {w : Value} (h : key.toValue.told.agrees w = true) :
    w = key.toValue := by
  cases key <;> exact (beq_iff_eq.mp h).symm

theorem Layout.Accepts.exists_key {l : Layout} {row : Row} (h : l.Accepts row) :
    ∃ (key : Key) (values : List Value), row = key.toValue :: values := by
  cases row with
  | nil => cases h.typed
  | cons v values =>
      have htype : v.fieldType = l.keyType.fieldType := (List.cons_eq_cons.mp h.typed).1
      have hnull : v.isNull = false := h.key v rfl
      cases v with
      | null t => cases hnull
      | i64 n => exact ⟨.int n, values, rfl⟩
      | text s => exact ⟨.text s, values, rfl⟩
      | uuid u => exact ⟨.uuid u, values, rfl⟩
      | _ => cases hkey : l.keyType <;> rw [hkey] at htype <;> cases htype

/-- A row that agrees with what is told of a record is the row of a record that does. -/
theorem Record.exists_agrees {r : Record} (haligned : r.Aligned) {row : Row}
    (hrow : List.Forall₂ (fun v w ↦ v.told.agrees w = true) (insertRow r) row) :
    ∃ found : Record, row = insertRow found ∧ (found.layout = r.layout ∧ found.Aligned) ∧
      r.told.agrees found = true := by
  obtain ⟨w, values, hkey, hvalues, rfl⟩ := List.forall₂_cons_left_iff.mp hrow
  obtain rfl := Key.eq_of_agrees hkey
  have htypes : r.values.map Value.fieldType = values.map Value.fieldType := by
    rw [← List.forall₂_eq_eq_eq, List.forall₂_map_left_iff, List.forall₂_map_right_iff]
    refine hvalues.imp fun v _ hagrees ↦ ?_
    rw [← v.fieldType_told, Value.fieldType_of_agrees hagrees]
  have htold : List.Forall₂ (fun v w ↦ v.agrees w = true) (r.values.map Value.told) values :=
    List.forall₂_map_left_iff.mpr hvalues
  refine ⟨⟨r.layout, r.key, values⟩, rfl, ⟨rfl, htypes.symm.trans haligned⟩, ?_⟩
  simp only [agrees, told, typeName, beq_self_eq_true, htold.length_eq, Bool.true_and,
    List.all_eq_true]
  exact fun _ hx ↦ (List.forall₂_iff_zip.mp htold).2 hx

theorem exists_agreeing {r : Record} (haligned : r.Aligned) {rows : List Row}
    (hrows : ∀ row ∈ rows, List.Forall₂ (fun v w ↦ v.told.agrees w = true) (insertRow r) row) :
    ∃ found : List Record, rows = found.map insertRow ∧
      (∀ r' ∈ found, r'.layout = r.layout ∧ r'.Aligned) ∧
      ∀ r' ∈ found, r.told.agrees r' = true := by
  induction rows with
  | nil => exact ⟨[], rfl, nofun, nofun⟩
  | cons row rows ih =>
      obtain ⟨hrow, hrest⟩ := List.forall_mem_cons.mp hrows
      obtain ⟨first, rfl, hfirst, hagrees⟩ := Record.exists_agrees haligned hrow
      obtain ⟨found, rfl, hfound, hall⟩ := ih hrest
      exact ⟨first :: found, rfl, List.forall_mem_cons.mpr ⟨hfirst, hfound⟩,
        List.forall_mem_cons.mpr ⟨hagrees, hall⟩⟩

namespace Sqlite

open Sqlite.Database (insertedRow updatedRow)

namespace Table

variable {t t' : Table} {l : Layout}

theorem Declares.of_columns (h : t.Declares l) (hcolumns : t'.columns = t.columns) :
    t'.Declares l := by
  obtain ⟨name, columns, rows⟩ := t
  obtain ⟨name', columns', rows'⟩ := t'
  obtain rfl : columns' = columns := hcolumns
  exact ⟨h.affinity, h.apart, h.rowId⟩

/-- How storing a row under a key goes. If it succeeds the table keeps the row, and it does succeed
where only the key is constrained and the statement has places for the row. -/
structure Storing (t : Table) (l : Layout) (key : Key) (row : Row) (outcome : Except Error Unit)
    (d : Database) : Prop where
  kept : outcome = .ok () → ∃ t', d.find l.table = .ok t' ∧ t'.Declares l ∧ t'.Keeps l key row ∧
    (t.Keyed l → t'.Keyed l)
  succeeds : t.Keyed l → l.fieldCount + 1 ≤ Refusal.maxPlaces → outcome = .ok ()

end Table

/-! ## Statements in a transaction -/

section

variable {c : Connection} {t : Table} {l : Layout}

/-- A single row is written if its command runs. -/
theorem ensures_writeRow {statement : Statement} {command : Command} {row : Row}
    (htext : l.text .sqlite statement 0 = .ok (some (command.render .sqlite)))
    (hlisted : command.Listed) :
    (writeRows l statement [row]).Ensures Surface.sqlite .sqlite c fun _ outcome c' ↦
      (outcome = .ok () → ∃ e, (c.current true).run command (row.map Cell.ofValue) = .ok e ∧
        c'.current true = e.database) ∧
      ∀ e, (c.current true).run command (row.map Cell.ofValue) = .ok e → outcome = .ok () := by
  have hspelled : (Call.batchWrite true ⟨l, statement, 0⟩ [row]).inDialect .sqlite
      = .ok (.batchWrite true (command.render .sqlite) [row]) := by
    simp [Call.inDialect, htext, Except.map, Error.ofArgument]
  unfold writeRows
  rw [if_neg (List.cons_ne_nil _ _), Action.ensures_discard, Action.ensures_perform hspelled,
    answer_batchWrite]
  cases hbatch : c.batchWrite true (command.render .sqlite) [row] with
  | mk outcome c' =>
      cases outcome with
      | error e =>
          constructor
          · rintro ⟨⟩
          · intro e' he'
            have hwrite : c.write true (command.render .sqlite) row = (.ok _, _) :=
              (Connection.write_eq_ok hlisted).mpr ⟨e', he', rfl, rfl⟩
            rw [Connection.batchWrite_singleton_eq_ok.mpr ⟨_, hwrite, rfl⟩] at hbatch
            cases hbatch
      | ok counts =>
          obtain ⟨count, hwrite, -⟩ := Connection.batchWrite_singleton_eq_ok.mp hbatch
          exact ⟨fun _ ↦ Connection.current_of_write hlisted hwrite, fun _ _ ↦ rfl⟩

/-- A row is stored by a command that leaves, in place of the table, one that keeps the row. -/
theorem ensures_storeRow {statement : Statement} {command : Command} {key : Key} {row sent : Row}
    (h : t.Declares l) (ht : (c.current true).find l.table = .ok t)
    (htext : l.text .sqlite statement 0 = .ok (some (command.render .sqlite)))
    (hlisted : command.Listed)
    (hleaves : ∀ e, (c.current true).run command (sent.map Cell.ofValue) = .ok e →
      ∃ t', e.database = (c.current true).replace t' ∧ t'.name = t.name ∧
        t'.columns = t.columns ∧ t'.Keeps l key row ∧ (t.Keyed l → t'.Keyed l))
    (hsucceeds : t.Keyed l → l.fieldCount + 1 ≤ Refusal.maxPlaces →
      ∃ e, (c.current true).run command (sent.map Cell.ofValue) = .ok e) :
    (writeRows l statement [sent]).Ensures Surface.sqlite .sqlite c fun _ outcome c' ↦
      t.Storing l key row outcome (c'.current true) := by
  refine (ensures_writeRow htext hlisted).mono ?_
  rintro _ outcome c' ⟨hok, hrun⟩
  refine ⟨fun houtcome ↦ ?_, fun hkeyed hfits ↦ ?_⟩
  · obtain ⟨e, he, hcurrent⟩ := hok houtcome
    obtain ⟨t', hdatabase, hname, hcolumns, hkeeps, hkeyed⟩ := hleaves e he
    refine ⟨t', ?_, h.of_columns hcolumns, hkeeps, hkeyed⟩
    rw [hcurrent, hdatabase]
    exact Database.find_replace ht hname
  · obtain ⟨e, he⟩ := hsucceeds hkeyed hfits
    exact hrun e he

variable {r : Record} (h : t.Declares l) (ht : (c.current true).find l.table = .ok t)

include h ht

/-- Looking up a key finds it exactly if there are rows under it, and all of them bear it. -/
theorem ensures_existingKey {key : Key} (hkey : key.keyType = l.keyType) :
    (existingKeys l [[key]]).Ensures Surface.sqlite .sqlite c fun _ outcome c' ↦ c' = c ∧
      (∀ existing, outcome = .ok existing →
        (∀ cells ∈ t.under l key, t.Bears l key cells) ∧
          (key ∈ existing ↔ ∃ cells, cells ∈ t.under l key)) ∧
      ((∀ cells ∈ t.under l key, t.Bears l key cells) → ∃ existing, outcome = .ok existing) := by
  have hspelled : keysQuery .sqlite l [key] = .query true ((Command.select [l.keyColumn] l.table
      (some ⟨l.keyColumn, 1⟩)).render .sqlite) [key.toValue] [l.keyType.fieldType] := by
    rw [keysQuery, List.length_singleton, List.map_singleton]
  have hquery := Connection.query_under ht (List.cons_ne_nil l.keyColumn []) key
    [l.keyType.fieldType]
  rw [existingKeys, Action.ensures_bind,
    Action.ensures_perform (inDialect_keysQuery (List.cons_ne_nil _ _)), hspelled, answer_query,
    hquery]
  generalize hdecoded : ((t.under l key).map fun cells ↦ [l.keyColumn].map fun name ↦
    (Database.operand t name).cell cells).mapM (Connection.decodeRow [l.keyType.fieldType])
      = decoded
  cases decoded with
  | error e =>
      refine ⟨rfl, ?_, fun hbears ↦ ?_⟩
      · rintro existing ⟨⟩
      · rw [(Table.decode_under_eq_ok h hkey).mpr ⟨hbears, rfl⟩] at hdecoded
        cases hdecoded
  | ok rows =>
      obtain ⟨hbears, rfl⟩ := (Table.decode_under_eq_ok h hkey).mp hdecoded
      have hkeys : Store.keysOf ((t.under l key).map fun _ ↦ [key.toValue])
          = .ok ((t.under l key).map fun _ ↦ key) := by
        unfold Store.keysOf
        rw [mapM_eq_ok]
        induction t.under l key with
        | nil => exact .nil
        | cons cells found ih => exact .cons (Key.ofValue_toValue key) ih
      simp only [Action.Then]
      rw [Action.ensures_bind, Action.ensures_ofExcept, hkeys]
      refine ⟨rfl, ?_, fun _ ↦ ⟨_, rfl⟩⟩
      rintro existing ⟨⟩
      refine ⟨hbears, ?_⟩
      rw [List.append_nil, List.mem_map]
      exact exists_congr fun cells ↦ and_iff_left rfl

variable (haccepts : l.Accepts (insertRow r))

include haccepts

/-- A new row is inserted. -/
theorem ensures_insertRow (hnone : t.under l r.key = []) :
    (writeRows l .insert [insertRow r]).Ensures Surface.sqlite .sqlite c fun _ outcome c' ↦
      t.Storing l r.key (insertRow r) outcome (c'.current true) := by
  obtain ⟨places, hplaces⟩ := h.exists_places (List.Subset.refl l.columns)
  have hlisted : (Command.insert l.table l.columns (l.fieldCount + 1)).Listed :=
    ⟨by simp [Layout.columns], by simp⟩
  have hbears : t.Bears l r.key (insertedRow t places ((insertRow r).map .ofValue)) :=
    Table.bears_of_holds h (Table.holds_insertedRow h hplaces)
  have htext : l.text .sqlite .insert 0 = .ok (some
      ((Command.insert l.table l.columns (l.fieldCount + 1)).render .sqlite)) := rfl
  refine ensures_storeRow h ht htext hlisted ?_ ?_
  · intro e he
    obtain ⟨-, t', hinsert, rfl⟩ := (Database.run_insert_eq_ok ht hplaces).mp he
    have hsame : t'.name = t.name ∧ t'.columns = t.columns := by
      obtain ⟨stored, -, rfl⟩ := Table.insert_eq_ok.mp hinsert
      exact ⟨rfl, rfl⟩
    refine ⟨t', rfl, hsame.1, hsame.2, Table.keeps_insert h haccepts hplaces hnone hinsert, ?_⟩
    intro hkeyed
    obtain ⟨t'', hinsert', hkeyed'⟩ := hkeyed.insert h haccepts.keyType hbears hnone
    rw [hinsert] at hinsert'
    exact Except.ok.inj hinsert' ▸ hkeyed'
  · intro hkeyed hfits
    obtain ⟨t', hinsert, -⟩ := hkeyed.insert h haccepts.keyType hbears hnone
    exact ⟨_, (Database.run_insert_eq_ok ht hplaces).mpr ⟨hfits, t', hinsert, rfl⟩⟩

/-- The rows under a key are updated. -/
theorem ensures_updateRow (hfields : l.fields ≠ []) (hconverted : t.Converted)
    (hfound : ∃ cells, cells ∈ t.under l r.key)
    (hbears : ∀ cells ∈ t.under l r.key, t.Bears l r.key cells) :
    (writeRows l .update [updateRow r]).Ensures Surface.sqlite .sqlite c fun _ outcome c' ↦
      t.Storing l r.key (insertRow r) outcome (c'.current true) := by
  obtain ⟨places, hplaces⟩ := h.exists_places (List.subset_cons_self l.keyColumn l.fieldNames)
  have hlisted : (Command.update l.table l.fieldNames l.keyColumn).Listed := by
    simpa [Command.Listed, Layout.fieldNames] using hfields
  have htext : l.text .sqlite .update 0
      = .ok (some ((Command.update l.table l.fieldNames l.keyColumn).render .sqlite)) := by
    simp [Layout.text, Statement.isSized, Layout.sql?, Layout.command?, hfields]
  have hlength : r.values.length = l.fieldNames.length := by
    have hrow := haccepts.length
    exact Nat.succ.inj hrow
  have hselects : (fun cells ↦ (Database.operand t l.keyColumn).equals cells
      (Database.parameter ((updateRow r).map .ofValue) (l.fieldNames.length + 1)))
        = t.isUnder l r.key := by
    have hparam : ((updateRow r).map Cell.ofValue)[l.fieldNames.length]?
        = some (.ofValue r.key.toValue) := by
      rw [← hlength, updateRow]
      simp
    rw [Table.parameter_of_getElem? hparam]
    rfl
  have hchange : ∀ cells ∈ t.rows, t.Bears l r.key cells →
      t.Bears l r.key (updatedRow places ((updateRow r).map .ofValue) cells) := by
    intro cells hcells hcell
    refine Table.bears_of_holds h (Table.holds_updatedRow h hplaces (hconverted.length hcells) ?_)
    exact fun index c hfinds ↦ (Table.bears_iff hfinds).mp hcell
  refine ensures_storeRow h ht htext hlisted ?_ ?_
  · intro e he
    obtain ⟨-, t', count, hupdate, rfl⟩ := (Database.run_update_eq_ok ht hplaces).mp he
    rw [hselects] at hupdate
    have hsame : t'.name = t.name ∧ t'.columns = t.columns := by
      obtain ⟨rows, rfl, -⟩ := Table.update_eq_ok hupdate
      exact ⟨rfl, rfl⟩
    refine ⟨t', rfl, hsame.1, hsame.2,
      Table.keeps_update h haccepts hconverted hplaces hfound hbears hupdate, ?_⟩
    intro hkeyed
    obtain ⟨t'', count', hupdate', hkeyed'⟩ := hkeyed.update h haccepts.keyType hchange
    rw [hupdate] at hupdate'
    cases hupdate'
    exact hkeyed'
  · intro hkeyed hfits
    obtain ⟨t', count, hupdate, -⟩ := hkeyed.update h haccepts.keyType hchange
    rw [← hselects] at hupdate
    rw [← l.length_fieldNames] at hfits
    exact ⟨_, (Database.run_update_eq_ok ht hplaces).mpr ⟨hfits, t', count, hupdate, rfl⟩⟩

/-! ## The transaction -/

/-- Inside the transaction the record is inserted if there are no rows under its key, and otherwise
they are updated. -/
theorem ensures_upsert_sqlite (hconverted : t.Converted) (store : Store) :
    (store.upsert l [r]).Ensures Surface.sqlite .sqlite c fun _ outcome c' ↦
      t.Storing l r.key (insertRow r) outcome (c'.current true) := by
  have hkey := haccepts.keyType
  rw [upsert_eq, List.map_singleton, chunks_singleton, Action.ensures_bind]
  -- from here on only what the question ensures counts, not how it is spelled
  have hasked := ensures_existingKey h ht hkey
  generalize existingKeys l [[r.key]] = asked at hasked ⊢
  refine hasked.mono ?_
  rintro _ outcome c' ⟨rfl, hfound, hsucceeds⟩
  cases outcome with
  | error e =>
      refine ⟨nofun, fun hkeyed _ ↦ ?_⟩
      obtain ⟨existing, hexisting⟩ := hsucceeds (hkeyed.bears h hkey)
      cases hexisting
  | ok existing =>
      obtain ⟨hbears, hpresent⟩ := hfound existing rfl
      simp only [Action.Then]
      by_cases hmem : r.key ∈ existing
      · have hnew : newRows [r] existing = [] := by simp [newRows, hmem]
        rw [hnew, writeRows, if_pos rfl, pure_bind]
        by_cases hfields : l.fields = []
        · rw [changedRows, if_pos hfields, writeRows, if_pos rfl, Action.ensures_pure]
          refine ⟨fun _ ↦ ⟨t, ht, h, ?_, id⟩, fun _ _ ↦ rfl⟩
          exact Table.keeps_of_bears haccepts hfields (hpresent.mp hmem) hbears
        · have hchanged : changedRows l [r] existing = [updateRow r] := by
            simp [changedRows, hfields, hmem]
          rw [hchanged]
          exact ensures_updateRow h ht haccepts hfields hconverted (hpresent.mp hmem) hbears
      · have hnew : newRows [r] existing = [insertRow r] := by simp [newRows, hmem]
        have hchanged : changedRows l [r] existing = [] := by simp [changedRows, hmem]
        have hnone : t.under l r.key = [] :=
          List.eq_nil_iff_forall_not_mem.mpr fun cells hcells ↦ hmem (hpresent.mpr ⟨cells, hcells⟩)
        have hquiet : (fun _ ↦ writeRows l .update [] : Unit → Action Unit) = pure :=
          funext fun _ ↦ if_pos rfl
        rw [hnew, hchanged, hquiet, bind_pure]
        exact ensures_insertRow h ht haccepts hnone

end

section

variable {c : Connection} {t : Table} {l : Layout} {r : Record} (h : t.Declares l)
  (ht : c.committed.find l.table = .ok t) (haccepts : l.Accepts (insertRow r))

include h ht haccepts

theorem ensures_transaction_sqlite (hconverted : t.Converted) (store : Store) :
    (Store.inTransaction (store.upsert l [r])).Ensures Surface.sqlite .sqlite c
      fun _ outcome c' ↦ t.Storing l r.key (insertRow r) outcome c'.committed := by
  have hbegin : (c.begin.current true).find l.table = .ok t := ht
  refine ensures_inTransaction nofun fun _ ↦ ?_
  refine (ensures_upsert_sqlite h hbegin haccepts hconverted store).mono ?_
  intro log outcome c' hstoring
  cases outcome with
  | ok _ => exact hstoring
  | error e => exact ⟨nofun, hstoring.succeeds⟩

variable {store : Store} (hl : store.registry.get? l.typeName = some l) (hlayout : r.layout = l)

include hl hlayout

theorem ensures_put_sqlite (hconverted : t.Converted) :
    (store.put (some r)).Ensures Surface.sqlite .sqlite c fun _ outcome c' ↦
      ∃ verdict, t.Storing l r.key (insertRow r) verdict c'.committed ∧
        outcome = (verdict.map fun _ ↦ some r).mapError
          (Error.during "put_all" l.typeName (.records [r.key])) := by
  have hadmits : Store.Admits store.registry.get? l ([some r]).reduceOption :=
    ⟨hl, by simpa [List.reduceOption] using hlayout, by simp [List.reduceOption]⟩
  have hpresent : ([some r]).reduceOption ≠ [] := by simp [List.reduceOption]
  have hrecords : ([some r]).reduceOption = [r] := rfl
  unfold Store.put
  dsimp only
  rw [Action.ensures_bind, Store.putAll_of_admits hadmits hpresent, hrecords, Action.ensures_bind,
    Action.ensures_announce]
  simp only [Action.Then]
  rw [Action.ensures_bind, Action.ensures_during]
  refine (ensures_transaction_sqlite h ht haccepts hconverted store).mono ?_
  intro log outcome c' hstoring
  cases outcome with
  | error e => exact ⟨.error e, hstoring, rfl⟩
  | ok _ =>
      simp only [Action.Then, Except.mapError]
      rw [Action.ensures_bind, Action.ensures_announce]
      exact ⟨.ok (), hstoring, rfl⟩

end

/-! ## Reading back -/

variable {c : Connection} {t : Table} {l : Layout} {r : Record}

/-- A table that keeps the row of a record is read as records that agree with what is told of it. -/
theorem ensures_get_sqlite (ht : c.committed.find l.table = .ok t)
    (haccepts : l.Accepts (insertRow r)) (hkeeps : t.Keeps l r.key (insertRow r)) {store : Store}
    (hl : store.registry.get? l.typeName = some l) (hlayout : r.layout = l) :
    (store.get l.typeName r.key).Ensures Surface.sqlite .sqlite c fun _ outcome c' ↦
      c' = c ∧ ∃ found, outcome = .ok (some found) ∧ r.told.agrees found = true := by
  have htakes : Store.Takes store.registry.get? l l.typeName [r.key] :=
    ⟨hl, by simpa using haccepts.keyType⟩
  have haligned : r.Aligned := by
    have htypes := (List.cons_eq_cons.mp haccepts.typed).2
    rwa [← hlayout] at htypes
  obtain ⟨rows, hdecoded, hne, hagrees⟩ := hkeeps.decode
  have hcurrent : (c.current false).find l.table = .ok t := ht
  have hquery := Connection.query_under hcurrent (List.cons_ne_nil l.keyColumn l.fieldNames) r.key
    l.rowShape
  have hrows : Surface.sqlite.answer (someQuery .sqlite l [r.key]) c = (.ok rows, c) := by
    rw [someQuery, answer_query, ← hdecoded]
    exact hquery
  obtain ⟨found, rfl, hfound, hall⟩ := exists_agreeing haligned hagrees
  have hrecords : (Surface.sqlite.exchange (someQuery .sqlite l [r.key]) c).records l
      = .ok found := by
    rw [Surface.exchange, hrows]
    exact mapM_insertRow fun r' hr' ↦ hlayout ▸ hfound r' hr'
  have hsome : found ≠ [] := fun hnone ↦ hne (congrArg _ hnone)
  have hlast : found.getLast? = some (found.getLast hsome) := List.getLast?_eq_some_getLast hsome
  refine (Store.ensures_get htakes).mono ?_
  rintro log outcome c' ⟨-, houtcome, hstate⟩
  rw [hrecords] at houtcome
  rw [hrows] at hstate
  exact ⟨hstate, found.getLast hsome, houtcome.trans (congrArg Except.ok hlast),
    hall _ (List.getLast_mem hsome)⟩

/-! ## Storing and reading -/

/-- What the insertion of a layout does with a row of values. -/
theorem write_insert (h : t.Declares l) {inTransaction : Bool}
    (ht : (c.current inTransaction).find l.table = .ok t) {row : Row} (haccepts : l.Accepts row)
    {sql : String} (hsql : l.sql? .sqlite .insert 0 = some sql) :
    (∀ n c', c.write inTransaction sql row = (.ok n, c') → ∃ t' cells,
      (c'.current inTransaction).find l.table = .ok t' ∧ t'.columns = t.columns ∧
        t'.rows.Perm (cells :: t.rows) ∧ t'.Stores l row cells) ∧
    (t.Keyed l → l.fieldCount + 1 ≤ Refusal.maxPlaces →
      (∀ key : Key, row.head? = some key.toValue → t.under l key = []) →
      ∃ n c', c.write inTransaction sql row = (.ok n, c')) := by
  have hlisted : (Command.insert l.table l.columns (l.fieldCount + 1)).Listed :=
    ⟨by simp [Layout.columns], by simp⟩
  have hrender : sql = (Command.insert l.table l.columns (l.fieldCount + 1)).render .sqlite :=
    (Option.some.inj hsql).symm
  obtain ⟨places, hplaces⟩ := h.exists_places (List.Subset.refl l.columns)
  have hholds : t.Holds l row (insertedRow t places (row.map .ofValue)) :=
    Table.holds_insertedRow h hplaces
  constructor
  · intro n c' hwrite
    rw [hrender] at hwrite
    obtain ⟨e, he, hcurrent⟩ := Connection.current_of_write hlisted hwrite
    obtain ⟨-, t', hinsert, rfl⟩ := (Database.run_insert_eq_ok ht hplaces).mp he
    obtain ⟨stored, hstored, rfl⟩ := Table.insert_eq_ok.mp hinsert
    refine ⟨{ t with rows := t.inOrder (t.rows ++ [stored]) }, stored, ?_, rfl, ?_,
      Table.stores_accept h haccepts hholds hstored⟩
    · rw [hcurrent]
      exact Database.find_replace ht rfl
    · exact (Table.perm_inOrder t _).trans (List.perm_append_singleton _ _)
  · intro hkeyed hfits hfresh
    obtain ⟨key, values, rfl⟩ := haccepts.exists_key
    have hbears := Table.bears_of_holds h hholds
    obtain ⟨t', hinsert, -⟩ := hkeyed.insert h haccepts.keyType hbears (hfresh key rfl)
    have hrun := (Database.run_insert_eq_ok ht hplaces).mpr ⟨hfits, t', hinsert, rfl⟩
    rw [hrender]
    exact ⟨_, _, (Connection.write_eq_ok hlisted).mpr ⟨_, hrun, rfl, rfl⟩⟩

/-- A row that is inserted into a table that is declared for its layout is stored so that it is read
as values that agree with what is told of it. A record that is stored on such a table, whether it is
inserted or updated, is read back as a record that agrees with what is told of it. Where only the key
is constrained neither fails, and the table stays like that. Of a time of day nothing else is told
than itself, unless it is in a leap second inside a minute. -/
theorem stored_read_back {store : Store} (hstore : store.registry.Reachable) {l : Layout}
    (hl : store.registry.get? l.typeName = some l) {c : Connection} (hc : c.Reachable) {t : Table}
    (ht : c.committed.find l.table = .ok t) (hdeclares : t.Declares l) :
    (∀ row, l.Accepts row → ∃ sql, l.sql? .sqlite .insert 0 = some sql ∧
      (∀ n c', c.write false sql row = (.ok n, c') → ∃ t' cells,
        c'.committed.find l.table = .ok t' ∧ t'.columns = t.columns ∧
          t'.rows.Perm (cells :: t.rows) ∧ t'.Stores l row cells) ∧
      (t.Keyed l → l.fieldCount + 1 ≤ Refusal.maxPlaces →
        (∀ key : Key, row.head? = some key.toValue → t.under l key = []) →
        ∃ n c', c.write false sql row = (.ok n, c'))) ∧
    (∀ r : Record, r.layout = l → l.Accepts (insertRow r) →
      let o := store.operateAll Surface.sqlite .sqlite [.put (some r), .get l.typeName r.key] c
      ∃ stored read, o.1 = [stored, read] ∧
        (∀ reply, stored = .ok reply → reply = .record (some r) ∧
          ∃ found, read = .ok (.record (some found)) ∧ r.told.agrees found = true) ∧
        (t.Keyed l → l.fieldCount + 1 ≤ Refusal.maxPlaces → ∃ reply, stored = .ok reply ∧
          ∃ t', o.2.committed.find l.table = .ok t' ∧ t'.Declares l ∧ t'.Keyed l)) ∧
    ∀ time : Time, time.told = time ↔ (1000000000 ≤ time.nanosecond → time.second = 59) := by
  refine ⟨?_, ?_, fun time ↦ Time.told_eq_self_iff⟩
  · intro row haccepts
    obtain ⟨sql, hsql⟩ : ∃ sql, l.sql? .sqlite .insert 0 = some sql := ⟨_, rfl⟩
    have hcurrent : (c.current false).find l.table = .ok t := ht
    exact ⟨sql, hsql, write_insert hdeclares hcurrent haccepts hsql⟩
  · intro r hlayout haccepts o
    have hconverted : t.Converted := hc.converted.committed t (Database.mem_of_find ht)
    have hput : (store.operate (.put (some r))).Ensures Surface.sqlite .sqlite c
        fun _ outcome c' ↦ ∃ verdict, t.Storing l r.key (insertRow r) verdict c'.committed ∧
          outcome = (verdict.map fun _ ↦ Reply.record (some r)).mapError
            (Error.during "put_all" l.typeName (.records [r.key])) := by
      refine Action.ensures_map.mpr
        ((ensures_put_sqlite hdeclares ht haccepts hl hlayout hconverted).mono ?_)
      rintro _ outcome c' ⟨verdict, hstoring, rfl⟩
      exact ⟨verdict, hstoring, by cases verdict <;> rfl⟩
    obtain ⟨⟨_, -, -, verdict, hstoring, hstored⟩, hreachable, hget⟩ :=
      hput.run hstore (Store.within_operate hstore _)
    generalize honce : (store.operate (.put (some r))).run.run Surface.sqlite .sqlite
      store.registry c = once at hstoring hstored hreachable hget
    let next : Store := { store with registry := once.registry }
    let twice := (next.operate (.get l.typeName r.key)).run.run Surface.sqlite .sqlite next.registry
      once.state
    have ho : o = ([once.result, twice.result], twice.state) := by
      simp only [o, Store.operateAll, honce]
      rfl
    rw [ho]
    refine ⟨once.result, twice.result, rfl, ?_⟩
    cases verdict with
    | error e =>
        rw [hstored]
        constructor
        · rintro reply ⟨⟩
        · intro hkeyed hfits
          cases hstoring.succeeds hkeyed hfits
    | ok _ =>
        obtain ⟨t', ht', hdeclares', hkeeps, hkeyed⟩ := hstoring.kept rfl
        have hl' : next.registry.get? l.typeName = some l := by rw [hget, hl]
        have hread : (next.operate (.get l.typeName r.key)).Ensures Surface.sqlite .sqlite
            once.state fun _ outcome c' ↦ c' = once.state ∧
              ∃ found, outcome = .ok (.record (some found)) ∧ r.told.agrees found = true := by
          refine Action.ensures_map.mpr
            ((ensures_get_sqlite ht' haccepts hkeeps hl' hlayout).mono ?_)
          rintro _ outcome c' ⟨rfl, found, rfl, hagrees⟩
          exact ⟨rfl, found, rfl, hagrees⟩
        have hnext : next.registry.Reachable := hreachable
        obtain ⟨⟨_, -, -, hstate, found, hfound, hagrees⟩, -, -⟩ :=
          hread.run hnext (Store.within_operate hnext _)
        refine ⟨?_, fun hkeyed' _ ↦ ⟨_, hstored, t', ?_, hdeclares', hkeyed hkeyed'⟩⟩
        · rintro reply hreply
          rw [hstored] at hreply
          exact ⟨(Except.ok.inj hreply).symm, found, hfound, hagrees⟩
        · exact hstate ▸ ht'

/-- A note that is due in a leap second of the first year is inserted into an empty table, as a row
and as a record. Whether it is done is not said. -/
theorem stored_read_back_note :
    let made : RecordType := ⟨"Note", none, "id", .int, [⟨"isDone", .bool, false⟩,
      ⟨"getDue", .dateTime, false⟩, ⟨"getPrice", .f64, false⟩]⟩
    let l : Layout := ⟨"Note", none, "id", .int,
      [("done", .bool), ("due", .dateTime), ("price", .f64)]⟩
    let store : Store := ⟨(Registry.empty.register made).2, ⟨1⟩, false⟩
    let due : DateTime := ⟨⟨-262143, 1, 1, by decide, by decide, by decide⟩,
      ⟨23, 59, 59, 1000000001, by decide, by decide, by decide, by decide⟩⟩
    let note : Record := ⟨l, .int (-7), [.null .bool, .dateTime due, .f64 (.ofInt 3)]⟩
    let t : Table := ⟨"Note", [⟨"id", .numeric, .rowId, false, 1⟩,
      ⟨"done", .numeric, .plain, false, 1⟩, ⟨"due", .text, .plain, false, 5⟩,
      ⟨"price", .real, .plain, false, 1⟩], []⟩
    let c : Connection := ⟨[t], none, 0⟩
    let o := store.operateAll Surface.sqlite .sqlite [.put (some note), .get "Note" note.key] c
    store.registry.Reachable ∧ store.registry.get? "Note" = some l ∧ c.Reachable ∧
      c.committed.find l.table = .ok t ∧ t.Declares l ∧ t.Keyed l ∧ l.Accepts (insertRow note) ∧
      (∃ sql n c' t' cells, l.sql? .sqlite .insert 0 = some sql ∧
        c.write false sql (insertRow note) = (.ok n, c') ∧ c'.committed.find l.table = .ok t' ∧
        t'.rows.Perm [cells] ∧ t'.Stores l (insertRow note) cells) ∧
      ∃ found, o.1 = [.ok (.record (some note)), .ok (.record (some found))] ∧
        note.agrees found = true := by
  intro made l store due note t c o
  have hstore : store.registry.Reachable := .register made .empty
  have hresolve : Layout.resolve ⟨"Note", none, "id", .int, [⟨"isDone", .bool, false⟩,
      ⟨"getDue", .dateTime, false⟩, ⟨"getPrice", .f64, false⟩]⟩
        = .ok ⟨"Note", none, "id", .int, [("done", .bool), ("due", .dateTime), ("price", .f64)]⟩ :=
    rfl
  have hl : store.registry.get? l.typeName = some l :=
    Registry.get?_register_self (t := made) rfl hresolve
  have hc : c.Reachable := by
    have hcreate : ((Connection.opened []).createTable "Note" [("id", "INTEGER PRIMARY KEY"),
        ("done", "BOOLEAN"), ("due", "TEXT"), ("price", "REAL")]).toOption = some c := by
      decide +kernel
    cases hcreated : (Connection.opened []).createTable "Note" [("id", "INTEGER PRIMARY KEY"),
        ("done", "BOOLEAN"), ("due", "TEXT"), ("price", "REAL")] with
    | error e =>
        rw [hcreated] at hcreate
        cases hcreate
    | ok c' =>
        rw [hcreated] at hcreate
        obtain rfl : c' = c := Option.some.inj hcreate
        exact .createTable .opened hcreated
  have ht : c.committed.find l.table = .ok t := by decide +kernel
  have hdeclares : t.Declares l := by decide +kernel
  have hkeyed : t.Keyed l := by
    refine ⟨?_, nofun, .nil⟩
    rintro (_ | _ | _ | _ | index) column hcolumn hne
    · exact absurd (by decide +kernel) hne
    · cases hcolumn
      exact ⟨rfl, rfl⟩
    · cases hcolumn
      exact ⟨rfl, rfl⟩
    · cases hcolumn
      exact ⟨rfl, rfl⟩
    · cases hcolumn
  have haccepts : l.Accepts (insertRow note) := by
    refine ⟨rfl, ?_, ?_⟩
    · rintro _ ⟨⟩
      rfl
    · decide +kernel
  have hfits : l.fieldCount + 1 ≤ Refusal.maxPlaces := by decide
  obtain ⟨hrow, hrecord, -⟩ := stored_read_back hstore hl hc ht hdeclares
  refine ⟨hstore, hl, hc, ht, hdeclares, hkeyed, haccepts, ?_, ?_⟩
  · obtain ⟨sql, hsql, hstored, hsucceeds⟩ := hrow (insertRow note) haccepts
    obtain ⟨n, c', hwrite⟩ := hsucceeds hkeyed hfits
      fun key _ ↦ List.perm_nil.mp (t.under_perm l key)
    obtain ⟨t', cells, ht', -, hrows, hstores⟩ := hstored n c' hwrite
    exact ⟨sql, n, c', t', cells, hsql, hwrite, ht', hrows, hstores⟩
  · obtain ⟨stored, read, ho, hread, hsucceeds⟩ := hrecord note rfl haccepts
    obtain ⟨reply, hreply, -⟩ := hsucceeds hkeyed hfits
    obtain ⟨rfl, found, hfound, hagrees⟩ := hread reply hreply
    exact ⟨found, by rw [ho, hreply, hfound], hagrees⟩

/-- A note that is due in a leap second after 12:30:30 is read back as due in the second after it. No
note is stored at all without what a column requires. -/
theorem inner_leap_second_read_as_next :
    let made : RecordType := ⟨"Note", none, "id", .int, [⟨"getDue", .time, false⟩]⟩
    let l : Layout := ⟨"Note", none, "id", .int, [("due", .time)]⟩
    let store : Store := ⟨(Registry.empty.register made).2, ⟨500⟩, false⟩
    let leap : Time := ⟨12, 30, 30, 1500000000, by decide, by decide, by decide, by decide⟩
    let next : Time := ⟨12, 30, 31, 500000000, by decide, by decide, by decide, by decide⟩
    let note : Record := ⟨l, .int 1, [.time leap]⟩
    let found : Record := ⟨l, .int 1, [.time next]⟩
    let undated : Record := ⟨l, .int 1, [.null .time]⟩
    let key : Column := .ofDeclaration "id" "INTEGER PRIMARY KEY"
    let t : Table := ⟨"Note", [key, .ofDeclaration "due" "TEXT"], []⟩
    let strict : Table := ⟨"Note", [key, .ofDeclaration "due" "TEXT NOT NULL"], []⟩
    let answers (t : Table) (r : Record) :=
      (store.operateAll Surface.sqlite .sqlite [.put (some r), .get "Note" r.key]
        (.opened [t])).1.map Except.toOption
    (t.Declares l ∧ l.Accepts (insertRow note) ∧
      answers t note = [some (.record (some note)), some (.record (some found))] ∧
      note.agrees found = false) ∧
    strict.Declares l ∧ l.Accepts (insertRow undated) ∧
      answers strict undated = [none, some (.record none)] := by
  intro made l store leap next note found undated key t strict answers
  have haccepts (v : Value) (htype : v.fieldType = .time) : l.Accepts [.i64 1, v] := by
    refine ⟨by rw [List.map_cons, List.map_singleton, htype]; rfl, ?_, ?_⟩
    · rintro _ ⟨⟩
      rfl
    · rw [List.forall_mem_cons, List.forall_mem_singleton]
      refine ⟨rfl, ?_⟩
      cases v with
      | f64 x => cases htype
      | _ => rfl
  exact ⟨⟨by decide +kernel, haccepts (.time leap) rfl, by decide +kernel, by decide +kernel⟩,
    by decide +kernel, haccepts (.null .time) rfl, by decide +kernel⟩

end Sqlite

end RecordStore
