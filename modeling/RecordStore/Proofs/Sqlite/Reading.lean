import Mathlib.Data.List.Flatten
import Mathlib.Data.List.Perm.Basic
import RecordStore.Proofs.Reads
import RecordStore.Proofs.Sqlite.Statements

namespace RecordStore

open Sql (Command)
open Sqlite.Database (operand Operand)
open Store (Takes fetchChunks materialize)

/-!
# Records read off tables

A row of a table is read as a record, or not at all. Where the cells for the key are stored as keys,
a row is under a key exactly if its record has the key. A list therefore finds the records of all
rows, a question for keys those that have one of the keys, and a deletion takes their rows away and
no others.
-/

theorem Key.eq_of_ofValue? {v : Value} {key : Key} {type : KeyType}
    (h : ofValue? v = some key) (htype : v.fieldType = type.fieldType) :
    v = key.toValue ∧ key.keyType = type := by
  cases v with
  | i64 _ | text _ | uuid _ =>
      cases h
      cases type <;> cases htype
      exact ⟨rfl, rfl⟩
  | i32 _ => cases type <;> cases htype
  | _ => cases h

theorem forall₂_filter {α β : Type} {R : α → β → Prop} {p : α → Bool} {q : β → Bool} {xs : List α}
    {ys : List β} (h : List.Forall₂ R xs ys) (hpq : ∀ x ∈ xs, ∀ y, R x y → p x = q y) :
    List.Forall₂ R (xs.filter p) (ys.filter q) := by
  induction h with
  | nil => exact .nil
  | cons hxy _ ih =>
      obtain ⟨hx, hrest⟩ := List.forall_mem_cons.mp hpq
      rw [List.filter_cons, List.filter_cons, hx _ hxy]
      split
      · exact .cons hxy (ih hrest)
      · exact ih hrest

/-- The records with keys of two lists that share none, one list after the other. -/
theorem perm_filter_append {keys keys' : List Key} (h : List.Disjoint keys keys')
    (found : List Record) :
    (found.filter (fun r ↦ decide (r.key ∈ keys)) ++ found.filter fun r ↦ decide (r.key ∈ keys')).Perm
      (found.filter fun r ↦ decide (r.key ∈ keys ++ keys')) := by
  induction found with
  | nil => exact .nil
  | cons r found ih =>
      by_cases hfirst : r.key ∈ keys
      · have hsecond : r.key ∉ keys' := h hfirst
        simpa [hfirst, hsecond] using ih
      · by_cases hsecond : r.key ∈ keys'
        · simpa [hfirst, hsecond] using List.perm_middle.trans (ih.cons r)
        · simpa [hfirst, hsecond] using ih

namespace Sqlite

namespace Table

variable {t : Table} {l : Layout} {cells : List Cell} {r : Record}

/-- The record that the row is read as. -/
def Reads (t : Table) (l : Layout) (cells : List Cell) (r : Record) : Prop :=
  (Connection.decodeRow l.rowShape (t.read l cells) >>= Record.ofRow l) = .ok r

theorem reads_iff : t.Reads l cells r ↔ ∃ row,
    Connection.decodeRow l.rowShape (t.read l cells) = .ok row ∧ Record.ofRow l row = .ok r :=
  bind_eq_ok

/-- Rows are read together if each of them is read. -/
theorem mapM_read_eq_ok {rows : List (List Cell)} {found : List Record} :
    ((rows.map (t.read l)).mapM (Connection.decodeRow l.rowShape) >>= fun rows ↦
      rows.mapM (Record.ofRow l)) = .ok found ↔ List.Forall₂ (t.Reads l) rows found := by
  simp only [bind_eq_ok, mapM_eq_ok, List.forall₂_map_left_iff]
  constructor
  · rintro ⟨decoded, hdecoded, hfound⟩
    induction hdecoded generalizing found with
    | nil =>
        cases hfound
        exact .nil
    | cons hrow _ ih =>
        cases hfound with
        | cons hr hrest => exact .cons (reads_iff.mpr ⟨_, hrow, hr⟩) (ih hrest)
  · intro h
    induction h with
    | nil => exact ⟨[], .nil, .nil⟩
    | cons hreads _ ih =>
        obtain ⟨row, hrow, hr⟩ := reads_iff.mp hreads
        obtain ⟨decoded, hdecoded, hfound⟩ := ih
        exact ⟨row :: decoded, .cons hrow hdecoded, .cons hr hfound⟩

/-- The records that are read off some rows are read off them in any other order. -/
theorem exists_read {rows rows' : List (List Cell)} {found : List Record}
    (h : List.Forall₂ (t.Reads l) rows found) (hperm : rows'.Perm rows) :
    ∃ found', List.Forall₂ (t.Reads l) rows' found' ∧ found'.Perm found :=
  List.perm_comp_forall₂ hperm h

/-! ## Rows under keys -/

/-- The columns have converted all cells, as they have on every connection, and no text stands for an
identifier. -/
structure StoresKeys (t : Table) (l : Layout) : Prop where
  converted : t.Converted
  blobs : l.keyType = .uuid → ∀ cells ∈ t.rows, ∀ s, (operand t l.keyColumn).cell cells ≠ .text s

theorem Reads.layout (h : t.Reads l cells r) : r.layout = l := by
  obtain ⟨row, -, hr⟩ := reads_iff.mp h
  exact Record.layout_of_ofRow hr

/-- The cell for the key is decoded as the key of the record. -/
theorem Reads.decode_key (h : t.Reads l cells r) : r.key.keyType = l.keyType ∧
    ((operand t l.keyColumn).cell cells).decode l.keyType.fieldType = .ok r.key.toValue := by
  obtain ⟨row, hrow, hr⟩ := reads_iff.mp h
  obtain ⟨-, -, hkey, -⟩ := Record.ofRow_eq_ok.mp hr
  obtain ⟨-, hcells⟩ := Connection.decodeRow_eq_ok.mp hrow
  replace hcells : List.Forall₂ (fun cell v ↦ cell.2.decode cell.1 = .ok v)
      ((l.keyType.fieldType, (operand t l.keyColumn).cell cells) :: _) row := hcells
  obtain ⟨v, rest, hv, -, rfl⟩ := List.forall₂_cons_left_iff.mp hcells
  obtain ⟨rfl, htype⟩ := Key.eq_of_ofValue? hkey (Cell.fieldType_of_decode hv)
  exact ⟨htype, hv⟩

theorem StoresKeys.cell_eq (hstores : t.StoresKeys l) (hcells : cells ∈ t.rows)
    (h : t.Reads l cells r) : (operand t l.keyColumn).cell cells = .ofValue r.key.toValue := by
  obtain ⟨htype, hdecode⟩ := h.decode_key
  rw [← htype] at hdecode
  refine Cell.eq_of_decode hdecode fun huuid ↦ ?_
  exact hstores.blobs (htype.symm.trans huuid) cells hcells

/-- A row is under a key exactly if its record has the key. -/
theorem StoresKeys.isUnder_iff (hstores : t.StoresKeys l) (hcells : cells ∈ t.rows)
    (h : t.Reads l cells r) {key : Key} (hkey : key.keyType = l.keyType) :
    t.isUnder l key cells = true ↔ r.key = key := by
  have hcell := hstores.cell_eq hcells h
  have htype : key.keyType = r.key.keyType := hkey.trans h.decode_key.1.symm
  unfold isUnder
  cases hindex : t.columnIndex? l.keyColumn with
  | none =>
      have hoperand : operand t l.keyColumn = .literal l.keyColumn := by
        rw [operand, hindex]
      rw [hoperand] at hcell ⊢
      replace hcell : Cell.text l.keyColumn = .ofValue r.key.toValue := hcell
      rw [Operand.equals, hcell, eq_comm (b := key)]
      exact ⟨Cell.eq_of_matchesCell_key htype, fun h ↦ h ▸ Cell.key_matchesCell_self key⟩
  | some index =>
      obtain ⟨hlt, -, -⟩ := List.findIdx?_eq_some_iff_getElem.mp hindex
      have hfinds : t.Finds l.keyColumn index t.columns[index] :=
        ⟨hindex, List.getElem?_eq_getElem hlt⟩
      rw [hfinds.operand] at hcell ⊢
      replace hcell : cell cells index = .ofValue r.key.toValue := hcell
      obtain ⟨given, -, rfl⟩ := hstores.converted cells hcells
      have hconverted := hcell
      rw [cell_convert hfinds.2] at hconverted
      rw [Operand.equals, hcell,
        Cell.matchesCell_forComparison htype (Cell.apply_key_of_eq hconverted), eq_comm]

theorem StoresKeys.isAmong_iff (hstores : t.StoresKeys l) (hcells : cells ∈ t.rows)
    (h : t.Reads l cells r) {keys : List Key} (hkeys : ∀ k ∈ keys, k.keyType = l.keyType) :
    t.isAmong l keys cells = true ↔ r.key ∈ keys := by
  rw [isAmong, List.any_eq_true]
  constructor
  · rintro ⟨key, hkey, hunder⟩
    rwa [(hstores.isUnder_iff hcells h (hkeys key hkey)).mp hunder]
  · intro hmem
    exact ⟨r.key, hmem, (hstores.isUnder_iff hcells h (hkeys r.key hmem)).mpr rfl⟩

/-! ## Whole tables -/

theorem delete_eq (t : Table) (selects : List Cell → Bool) :
    t.delete selects = ({ t with rows := t.rows.filter fun cells ↦ !selects cells },
      (t.rows.filter selects).length) := by
  rw [delete, List.partition_eq_filter_filter]
  rfl

/-- The rows, in some order, are read as the given records. -/
def ReadAs (t : Table) (l : Layout) (found : List Record) : Prop :=
  ∃ rows : List (List Cell), rows.Perm t.rows ∧ List.Forall₂ (t.Reads l) rows found

section

variable {found : List Record} {keys : List Key} (hread : t.ReadAs l found)
  (hstores : t.StoresKeys l) (hkeys : ∀ k ∈ keys, k.keyType = l.keyType)

include hread

theorem ReadAs.layout (hr : r ∈ found) : r.layout = l := by
  obtain ⟨rows, -, hfound⟩ := hread
  obtain ⟨cells, -, hreads⟩ := exists_of_forall₂ hfound hr
  exact hreads.layout

theorem ReadAs.keyType (hr : r ∈ found) : r.key.keyType = l.keyType := by
  obtain ⟨rows, -, hfound⟩ := hread
  obtain ⟨cells, -, hreads⟩ := exists_of_forall₂ hfound hr
  exact hreads.decode_key.1

theorem ReadAs.aligned (hr : r ∈ found) : r.Aligned := by
  obtain ⟨rows, -, hfound⟩ := hread
  obtain ⟨cells, -, hreads⟩ := exists_of_forall₂ hfound hr
  obtain ⟨row, -, hrow⟩ := reads_iff.mp hreads
  exact Record.aligned_of_ofRow hrow

include hstores hkeys

/-- The rows that are under the keys are read as the records that have them, and the other rows as
the other records. -/
theorem ReadAs.filter (named : Bool) : ∃ rows : List (List Cell),
    rows.Perm (t.rows.filter fun cells ↦ t.isAmong l keys cells == named) ∧
      List.Forall₂ (t.Reads l) rows (found.filter fun r ↦ decide (r.key ∈ keys) == named) := by
  obtain ⟨rows, hperm, hfound⟩ := hread
  refine ⟨_, hperm.filter _, forall₂_filter hfound fun cells hcells r hreads ↦ ?_⟩
  have hsame : t.isAmong l keys cells = decide (r.key ∈ keys) := by
    rw [Bool.eq_iff_iff, decide_eq_true_iff]
    exact hstores.isAmong_iff (hperm.mem_iff.mp hcells) hreads hkeys
  rw [hsame]

theorem ReadAs.among : ∃ again, List.Forall₂ (t.Reads l) (t.among l keys) again ∧
    again.Perm (found.filter fun r ↦ r.key ∈ keys) := by
  obtain ⟨rows, hperm, hfound⟩ := hread.filter hstores hkeys true
  simp only [beq_true] at hperm hfound
  exact exists_read hfound ((t.among_perm l keys).trans hperm.symm)

/-- A deletion of keys counts the records that have them and leaves the others. -/
theorem ReadAs.delete : (t.delete (t.isAmong l keys)).2 = (found.filter fun r ↦ r.key ∈ keys).length ∧
    (t.delete (t.isAmong l keys)).1.ReadAs l (found.filter fun r ↦ r.key ∉ keys) := by
  rw [delete_eq]
  constructor
  · obtain ⟨rows, hperm, hfound⟩ := hread.filter hstores hkeys true
    simp only [beq_true] at hperm hfound
    rw [← hfound.length_eq, hperm.length_eq]
  · obtain ⟨rows, hperm, hfound⟩ := hread.filter hstores hkeys false
    simp only [beq_false] at hperm hfound
    simp only [decide_not]
    exact ⟨rows, hperm, hfound⟩

end

end Table

/-! ## The store on a connection -/

section

variable {c : Connection} {t : Table} {l : Layout} {found : List Record}

/-- The records of an answer are those that the rows behind it are read as. -/
theorem records_eq_ok {spelled : Call String .rows} {rows : List (List Cell)}
    (hanswer : Surface.sqlite.answer spelled c
      = ((rows.map (t.read l)).mapM (Connection.decodeRow l.rowShape), c)) :
    (Surface.sqlite.exchange spelled c).records l = .ok found ↔
      List.Forall₂ (t.Reads l) rows found := by
  rw [Store.records_exchange, hanswer]
  exact Table.mapM_read_eq_ok

/-- The query for all rows, outside of any transaction. -/
def allQuery (l : Layout) : Call String .rows :=
  .query false ((Command.select l.columns l.table none).render .sqlite) [] l.rowShape

theorem answer_allQuery (ht : c.committed.find l.table = .ok t) : ∃ rows : List (List Cell),
    rows.Perm t.rows ∧ Surface.sqlite.answer (allQuery l) c
      = ((rows.map (t.read l)).mapM (Connection.decodeRow l.rowShape), c) := by
  have hcurrent : (c.current false).find l.table = .ok t := ht
  rw [allQuery, answer_query]
  exact Connection.query_all hcurrent (List.cons_ne_nil _ _) l.rowShape

theorem exists_find_of_allQuery {rows : List Row}
    (h : (Surface.sqlite.answer (allQuery l) c).1 = .ok rows) :
    ∃ t, c.committed.find l.table = .ok t := by
  rw [allQuery, answer_query] at h
  exact Connection.exists_find_of_query (List.cons_ne_nil l.keyColumn l.fieldNames) h

/-- A list finds the records of all rows of the table. Without the table, or with a row that is not
read, it fails. -/
theorem ensures_getAll_sqlite (c : Connection) {store : Store} {typeName : String}
    (hl : store.registry.get? typeName = some l) :
    (store.getAll typeName).Ensures Surface.sqlite .sqlite c fun _ outcome c' ↦
      (∀ found, outcome = .ok found → ∃ t, c.committed.find l.table = .ok t ∧ t.ReadAs l found) ∧
      ∀ t, c.committed.find l.table = .ok t → c' = c ∧ ∀ found, t.ReadAs l found →
        ∃ printed, outcome = .ok printed ∧ printed.Perm found := by
  have htakes : Takes store.registry.get? l typeName [] := ⟨hl, by simp⟩
  have hspelled : (Call.query false ⟨l, .selectAll, 0⟩ [] l.rowShape).inDialect .sqlite
      = .ok (allQuery l) := rfl
  rw [Store.getAll_eq]
  refine Store.ensures_taking (fun l' htakes' ↦ ?_) fun hnone ↦ absurd htakes (hnone l)
  obtain rfl := htakes.unique htakes'
  rw [Action.ensures_during, Store.ensures_asked hspelled]
  constructor
  · intro found houtcome
    cases hrecords : (Surface.sqlite.exchange (allQuery l) c).records l with
    | error e =>
        rw [hrecords] at houtcome
        cases houtcome
    | ok records =>
        rw [hrecords] at houtcome
        obtain rfl : records = found := Except.ok.inj houtcome
        have hanswered := hrecords
        rw [Store.records_exchange, bind_eq_ok] at hanswered
        obtain ⟨_, hanswered, -⟩ := hanswered
        obtain ⟨t, ht⟩ := exists_find_of_allQuery hanswered
        obtain ⟨rows, hperm, hanswer⟩ := answer_allQuery ht
        exact ⟨t, ht, rows, hperm, (records_eq_ok hanswer).mp hrecords⟩
  · intro t ht
    obtain ⟨rows, hperm, hanswer⟩ := answer_allQuery ht
    refine ⟨by rw [hanswer], ?_⟩
    rintro found ⟨rows', hperm', hrows⟩
    obtain ⟨printed, hprinted, hsame⟩ := Table.exists_read hrows (hperm.trans hperm'.symm)
    rw [(records_eq_ok hanswer).mpr hprinted]
    exact ⟨printed, rfl, hsame⟩

theorem inDialect_deleteKeys (l : Layout) {keys : List Key} (h : keys ≠ []) :
    (Call.write false ⟨l, .delete, keys.length⟩ (keys.map Key.toValue)).inDialect .sqlite
      = .ok (.write false ((Command.delete l.table (some ⟨l.keyColumn, keys.length⟩)).render .sqlite)
        (keys.map Key.toValue)) := by
  simp [Call.inDialect, Layout.text, Statement.isSized, h, Layout.sql?, Layout.command?,
    Except.map, Error.ofArgument]

section

variable (ht : c.committed.find l.table = .ok t) (hread : t.ReadAs l found)
  (hstores : t.StoresKeys l)

include ht hread hstores

theorem answer_someQuery {slice : List Key} (hslice : slice ≠ [])
    (hfits : slice.length ≤ Refusal.maxPlaces) (hkeys : ∀ k ∈ slice, k.keyType = l.keyType) :
    (∃ again, (Surface.sqlite.exchange (someQuery .sqlite l slice) c).records l = .ok again ∧
      again.Perm (found.filter fun r ↦ r.key ∈ slice)) ∧
      (Surface.sqlite.answer (someQuery .sqlite l slice) c).2 = c := by
  have hcurrent : (c.current false).find l.table = .ok t := ht
  have hanswer : Surface.sqlite.answer (someQuery .sqlite l slice) c
      = (((t.among l slice).map (t.read l)).mapM (Connection.decodeRow l.rowShape), c) := by
    rw [someQuery, answer_query]
    exact Connection.query_among hcurrent (List.cons_ne_nil _ _) hslice hfits l.rowShape
  obtain ⟨again, hagain, hperm⟩ := hread.among hstores hkeys
  exact ⟨⟨again, (records_eq_ok hanswer).mpr hagain, hperm⟩, by rw [hanswer]⟩

/-- Slices that share no key find the records that have any of their keys. -/
theorem ensures_fetchChunks_sqlite {slices : List (List Key)} (hslices : ∀ slice ∈ slices,
      slice ≠ [] ∧ slice.length ≤ Refusal.maxPlaces ∧ ∀ k ∈ slice, k.keyType = l.keyType)
    (hnodup : slices.flatten.Nodup) :
    (fetchChunks l slices).Ensures Surface.sqlite .sqlite c fun _ outcome c' ↦ c' = c ∧
      ∃ again, outcome = .ok again ∧
        again.Perm (found.filter fun r ↦ r.key ∈ slices.flatten) := by
  induction slices with
  | nil => exact ⟨rfl, [], rfl, by simp⟩
  | cons slice slices ih =>
      obtain ⟨⟨hslice, hfits, hkeys⟩, hrest⟩ := List.forall_mem_cons.mp hslices
      rw [List.flatten_cons] at hnodup ⊢
      obtain ⟨-, hflatten, hdisjoint⟩ := List.nodup_append'.mp hnodup
      obtain ⟨⟨first, hrecords, hfirst⟩, hstate⟩ :=
        answer_someQuery ht hread hstores hslice hfits hkeys
      rw [Store.fetchChunks_cons, Action.ensures_bind, Store.ensures_slice hslice, hrecords, hstate]
      simp only [Action.Then]
      rw [Action.ensures_bind]
      refine (ih hrest hflatten).mono ?_
      rintro _ outcome c' ⟨rfl, again, rfl, hagain⟩
      simp only [Action.Then]
      rw [Action.ensures_pure]
      refine ⟨rfl, first ++ again, rfl, ?_⟩
      exact (hfirst.append hagain).trans (perm_filter_append hdisjoint found)

variable {store : Store} {typeName : String} {keys : List Key}
  (htakes : Takes store.registry.get? l typeName keys) (hkeys : keys ≠ [])

include htakes hkeys

/-- Distinct keys find the records that have them. -/
theorem ensures_getSome_sqlite (hnodup : keys.Nodup)
    (hfits : min (max store.options.maxInList 1) keys.length ≤ Refusal.maxPlaces) :
    (store.getSome typeName keys).Ensures Surface.sqlite .sqlite c fun _ outcome c' ↦ c' = c ∧
      ∃ again, outcome = .ok again ∧ again.Perm (found.filter fun r ↦ r.key ∈ keys) := by
  have hflatten : (chunks store.options.maxInList keys).flatten = keys := flatten_chunks _ _
  have hslices : ∀ slice ∈ chunks store.options.maxInList keys,
      slice ≠ [] ∧ slice.length ≤ Refusal.maxPlaces ∧ ∀ k ∈ slice, k.keyType = l.keyType := by
    intro slice hslice
    have hsub : slice.Sublist keys := by
      have hone := (List.singleton_sublist.mpr hslice).flatten
      rwa [hflatten, List.flatten_singleton] at hone
    have hmost : slice.length ≤ min (max store.options.maxInList 1) keys.length :=
      Nat.le_min.mpr ⟨length_le_of_mem_chunks hslice, hsub.length_le⟩
    exact ⟨ne_nil_of_mem_chunks hslice, hmost.trans hfits,
      fun k hk ↦ htakes.keys k (hsub.subset hk)⟩
  rw [Store.getSome_eq]
  refine Store.ensures_taking (fun l' htakes' ↦ ?_) fun hnone ↦ absurd htakes (hnone l)
  obtain rfl := htakes.unique htakes'
  rw [if_neg hkeys, Action.ensures_during]
  refine (ensures_fetchChunks_sqlite ht hread hstores hslices (hflatten.symm ▸ hnodup)).mono ?_
  rintro _ outcome c' ⟨rfl, again, rfl, hagain⟩
  rw [hflatten] at hagain
  exact ⟨rfl, again, rfl, hagain⟩

/-- A removal takes the rows away whose records have one of the keys, and no others. -/
theorem ensures_remove_sqlite (hfits : keys.length ≤ Refusal.maxPlaces) :
    (store.remove typeName keys).Ensures Surface.sqlite .sqlite c fun _ outcome c' ↦
      outcome = .ok (found.filter fun r ↦ r.key ∈ keys).length ∧
      c'.committed = c.committed.replace (t.delete (t.isAmong l keys)).1 := by
  have hcurrent : (c.current false).find l.table = .ok t := ht
  have hwrite := Connection.write_delete hcurrent hkeys hfits
  rw [(hread.delete hstores htakes.keys).1] at hwrite
  rw [Store.remove_eq]
  refine Store.ensures_taking (fun l' htakes' ↦ ?_) fun hnone ↦ absurd htakes (hnone l)
  obtain rfl := htakes.unique htakes'
  rw [if_neg hkeys, Action.ensures_bind, Action.ensures_during,
    Action.ensures_perform (inDialect_deleteKeys l hkeys), answer_write, hwrite]
  simp only [Except.mapError, Action.Then]
  have hstored (changed : Nat) : ({ c.store false ((c.current false).replace
      (t.delete (t.isAmong l keys)).1) with changed } : Connection).committed
        = c.committed.replace (t.delete (t.isAmong l keys)).1 := by
    simp [Connection.store, Connection.current]
  split
  · rw [Action.ensures_bind, Action.ensures_announce]
    exact ⟨rfl, hstored _⟩
  · exact ⟨rfl, hstored _⟩

end

/-- More keys than a statement has places for are not removed. -/
theorem ensures_remove_of_many {store : Store} {typeName : String} {keys : List Key}
    (htakes : Takes store.registry.get? l typeName keys)
    (hmany : Refusal.maxPlaces < keys.length) :
    (store.remove typeName keys).Ensures Surface.sqlite .sqlite c fun _ outcome c' ↦
      (∃ e, outcome = .error e ∧ e.exitCode = 4) ∧ c'.committed = c.committed := by
  have hkeys : keys ≠ [] := by
    rintro rfl
    cases hmany
  have hlisted : (Command.delete l.table (some ⟨l.keyColumn, keys.length⟩)).Listed := by
    simp [Command.Listed, Sql.KeyFilter.Listed, hkeys]
  rw [Store.remove_eq]
  refine Store.ensures_taking (fun l' htakes' ↦ ?_) fun hnone ↦ absurd htakes (hnone l)
  obtain rfl := htakes.unique htakes'
  rw [if_neg hkeys, Action.ensures_bind, Action.ensures_during,
    Action.ensures_perform (inDialect_deleteKeys l hkeys), answer_write,
    Connection.write_of_tooManyPlaces hlisted hmany]
  exact ⟨⟨_, rfl, rfl⟩, rfl⟩

end

end Sqlite

end RecordStore
