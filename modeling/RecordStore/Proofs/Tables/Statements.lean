import Mathlib.Algebra.Ring.Nat
import Mathlib.Data.List.Dedup
import Mathlib.Data.List.Perm.Basic
import RecordStore.Proofs.Atomic
import RecordStore.Proofs.Drafts
import RecordStore.Proofs.Reads

namespace RecordStore

open Sql (Command KeyFilter)
open Store (insertRow materialize fetchChunks fetchSome Takes)

/-!
# Single statements on keyed tables

On keyed tables on which no call fails, a selection finds exactly the records that the database
holds, in some order, and leaves the database as it is; a deletion removes what its filter lets
through and counts it.
-/

abbrev Surface.soundTables (d : Dialect) (arrangement : Arrangement) : Surface TableState :=
  .tables d arrangement fun _ ↦ none

/-- A state between transactions with the same database. -/
structure TableState.Unchanged (s s' : TableState) : Prop where
  closed : s'.pending = none
  same : s'.committed = s.committed

theorem Contents.eq_of_record? {m : Contents} {l : Layout} {k : Key} {r : Record}
    (h : m.record? l k = some r) : r.layout = l ∧ r.key = k ∧ m l.table k = some r.values := by
  obtain ⟨values, hvalues, rfl⟩ := Option.map_eq_some_iff.mp h
  exact ⟨rfl, rfl, hvalues⟩

theorem Contents.nodup_filterMap (m : Contents) (l : Layout) {keys : List Key}
    (hkeys : keys.Nodup) : (keys.filterMap (m.record? l)).Nodup := by
  refine hkeys.filterMap fun k k' r hr hr' ↦ ?_
  rw [← (eq_of_record? hr).2.1, (eq_of_record? hr').2.1]

/-- Records under distinct keys, listed by a search through the keys or found in any other way. -/
theorem Contents.perm_filterMap {m : Contents} {l : Layout} {keys : List Key}
    {found : List Record} (hkeys : keys.Nodup) (hnodup : (found.map Record.key).Nodup)
    (hfound : ∀ r, r ∈ found ↔ r.key ∈ keys ∧ m.record? l r.key = some r) :
    found.Perm (keys.filterMap (m.record? l)) := by
  have hlisted := m.nodup_filterMap l hkeys
  refine (List.perm_ext_iff_of_nodup (.of_map _ hnodup) hlisted).mpr fun r ↦ ?_
  rw [hfound, List.mem_filterMap]
  constructor
  · rintro ⟨hmem, hr⟩
    exact ⟨r.key, hmem, hr⟩
  · rintro ⟨k, hmem, hr⟩
    obtain ⟨-, rfl, -⟩ := eq_of_record? hr
    exact ⟨hmem, hr⟩

theorem Database.aligned_of_record? {db : Database} {l : Layout} {k : Key} {r : Record}
    (hdb : db.layouts l.table = some l) (h : db.contents.record? l k = some r) : r.Aligned := by
  obtain ⟨rfl, -, hvalues⟩ := Contents.eq_of_record? h
  obtain ⟨t, ht, hlayout⟩ := exists_table hdb
  rw [contents_eq ht] at hvalues
  have htypes := t.typed k r.values hvalues
  rwa [hlayout] at htypes

section

variable {d : Dialect} {arrangement : Arrangement} {s : TableState} {l : Layout}

namespace Store

theorem mapM_insertRow {found : List Record} (hfound : ∀ r ∈ found, r.layout = l ∧ r.Aligned) :
    (found.map insertRow).mapM (Record.ofRow l) = .ok found := by
  rw [mapM_eq_ok, List.forall₂_map_left_iff, List.forall₂_same]
  intro r hr
  obtain ⟨rfl, haligned⟩ := hfound r hr
  exact Record.ofRow_of_types haligned r.key

theorem select_tables (hl : l.Sound) (hdb : s.committed.layouts l.table = some l)
    (hpending : s.pending = none) {statement : Statement} {count : Nat}
    {filter : Option KeyFilter} {params : List Value} {p : Key → Bool}
    (htext : l.text d statement count
      = .ok (some ((Command.select l.columns l.table filter).render d)))
    (hlisted : KeyFilter.Listed filter)
    (hfilter : ∀ t : Table, t.layout = l → t.filter? filter params = some p) :
    Action.Ensures (Surface.soundTables d arrangement) d (do
        let rows ← Action.perform (.query false ⟨l, statement, count⟩ params l.rowShape)
        materialize l rows) s fun _ outcome s' ↦
        s.Unchanged s' ∧ ∃ found : List Record, outcome = .ok found ∧
          (found.map Record.key).Nodup ∧
          ∀ r, r ∈ found ↔ p r.key = true ∧ s.committed.contents.record? l r.key = some r := by
  obtain ⟨there, hrows, hnodup, hthere⟩ := Database.query?_rows hl hdb hfilter
  have hspelled : (Call.query false ⟨l, statement, count⟩ params l.rowShape).inDialect d
      = .ok (.query false ((Command.select l.columns l.table filter).render d) params
        l.rowShape) := by
    simp [Call.inDialect, htext, Except.map, Error.ofArgument]
  have htarget : s.target? false = some s.committed := by simp [TableState.target?, hpending]
  have hc : (Command.select l.columns l.table filter).Listed := ⟨by simp [Layout.columns], hlisted⟩
  obtain ⟨found, harranged, hperm⟩ := arrangement.order_map s.clock insertRow there
  rw [Action.ensures_bind, Action.ensures_perform hspelled,
    TableState.answer_query hc htarget hrows]
  simp only [harranged, Action.Then]
  have hfound : ∀ r, r ∈ found ↔
      p r.key = true ∧ s.committed.contents.record? l r.key = some r := by
    intro r
    rw [hperm.mem_iff, hthere]
  have haligned : ∀ r ∈ found, r.layout = l ∧ r.Aligned := by
    intro r hr
    have hr' := ((hfound r).mp hr).2
    exact ⟨(Contents.eq_of_record? hr').1, Database.aligned_of_record? hdb hr'⟩
  rw [ensures_materialize, mapM_insertRow haligned]
  exact ⟨⟨hpending, rfl⟩, found, rfl, ((hperm.map _).nodup_iff).mpr hnodup, hfound⟩

/-- Distinct keys are listed once, wherever they are cut apart. -/
theorem flatMap_dedup_chunks {α β : Type} [DecidableEq α] {size : Nat} {xs : List α}
    (h : xs.Nodup) (f : α → Option β) :
    (chunks size xs).flatMap (fun slice ↦ slice.dedup.filterMap f) = xs.filterMap f := by
  have hflatten := flatten_chunks size xs
  have hslices : ∀ slice ∈ chunks size xs, slice.dedup = slice := by
    rw [← hflatten, List.nodup_flatten] at h
    exact fun slice hslice ↦ (h.1 slice hslice).dedup
  rw [List.flatMap_congr fun slice hslice ↦ by rw [hslices slice hslice]]
  conv_rhs => rw [← hflatten, List.filterMap_flatten]
  exact List.flatMap_def

/-- Chunk by chunk the records with the listed keys are found, each of them once for every chunk
that lists its key. -/
theorem fetchChunks_tables (hl : l.Sound) (hdb : s.committed.layouts l.table = some l)
    (hpending : s.pending = none) {slices : List (List Key)}
    (hslices : ∀ slice ∈ slices, slice ≠ []) :
    (fetchChunks l slices).Ensures (Surface.soundTables d arrangement) d s fun _ outcome s' ↦
      s.Unchanged s' ∧ ∃ found, outcome = .ok found ∧
        found.Perm (slices.flatMap fun slice ↦
          slice.dedup.filterMap (s.committed.contents.record? l)) := by
  induction slices generalizing s with
  | nil => exact ⟨⟨hpending, rfl⟩, [], rfl, .refl _⟩
  | cons slice slices ih =>
      obtain ⟨hslice, hrest⟩ := List.forall_mem_cons.mp hslices
      have htext : l.text d .selectSome slice.length = .ok (some ((Command.select l.columns l.table
          (some ⟨l.keyColumn, slice.length⟩)).render d)) := by
        simp [Layout.text, Statement.isSized, hslice, Layout.sql?, Layout.command?]
      have hlisted : KeyFilter.Listed (some ⟨l.keyColumn, slice.length⟩) := by
        simpa [KeyFilter.Listed] using hslice
      rw [fetchChunks_cons, Action.ensures_bind]
      refine (select_tables hl hdb hpending htext hlisted
        fun t ht ↦ Table.filter?_keys ht slice).mono ?_
      rintro log outcome s₁ ⟨hunchanged, found, rfl, hkeys, hfound⟩
      simp only [Action.Then]
      rw [Action.ensures_bind]
      have hsame := hunchanged.same
      refine (ih (s := s₁) (by rw [hsame, hdb]) hunchanged.closed hrest).mono ?_
      rintro log outcome s₂ ⟨hunchanged', rest, rfl, hperm⟩
      refine ⟨⟨hunchanged'.closed, hunchanged'.same.trans hsame⟩, found ++ rest, rfl, ?_⟩
      rw [List.flatMap_cons]
      rw [hsame] at hperm
      exact (Contents.perm_filterMap slice.nodup_dedup hkeys (by simpa using hfound)).append hperm

section

variable (hl : l.Sound) (hdb : s.committed.layouts l.table = some l) (hpending : s.pending = none)

include hl hdb hpending

theorem fetchSome_chunks (store : Store) (keys : List Key) :
    (store.fetchSome l keys).Ensures (Surface.soundTables d arrangement) d s fun _ outcome s' ↦
      s.Unchanged s' ∧ ∃ found, outcome = .ok found ∧
        found.Perm ((chunks store.options.maxInList keys).flatMap fun slice ↦
          slice.dedup.filterMap (s.committed.contents.record? l)) :=
  fetchChunks_tables hl hdb hpending fun _ h ↦ ne_nil_of_mem_chunks h

theorem fetchSome_tables (store : Store) {keys : List Key} (hkeys : keys.Nodup) :
    (store.fetchSome l keys).Ensures (Surface.soundTables d arrangement) d s fun _ outcome s' ↦
      s.Unchanged s' ∧ ∃ found, outcome = .ok found ∧
        found.Perm (keys.filterMap (s.committed.contents.record? l)) := by
  refine (fetchSome_chunks hl hdb hpending store keys).mono ?_
  rintro log outcome s' ⟨hunchanged, found, rfl, hperm⟩
  rw [flatMap_dedup_chunks hkeys] at hperm
  exact ⟨hunchanged, found, rfl, hperm⟩

theorem selectAll_tables :
    Action.Ensures (Surface.soundTables d arrangement) d (do
        let rows ← Action.perform (.query false ⟨l, .selectAll, 0⟩ [] l.rowShape)
        materialize l rows) s fun _ outcome s' ↦
      s.Unchanged s' ∧ ∃ found : List Record, outcome = .ok found ∧
        (found.map Record.key).Nodup ∧
        ∀ r, r ∈ found ↔ s.committed.contents.record? l r.key = some r := by
  refine (select_tables (p := fun _ ↦ true) hl hdb hpending rfl (by simp [KeyFilter.Listed])
    fun t _ ↦ rfl).mono ?_
  rintro log outcome s' ⟨hunchanged, found, rfl, hnodup, hfound⟩
  exact ⟨hunchanged, found, rfl, hnodup, by simpa using hfound⟩

end

section

variable (hdb : s.committed.layouts l.table = some l) (hpending : s.pending = none)

include hdb hpending

/-- The rows are counted rightly as long as their number fits the cell it is returned in. -/
theorem selectCount_tables :
    Action.Ensures (Surface.soundTables d arrangement) d (do
        let rows ← Action.perform (.query false ⟨l, .selectCount, 0⟩ [] [.i64])
        Action.ofExcept (countOf rows)) s fun _ outcome s' ↦
      s.Unchanged s' ∧ ∃ n size, outcome = .ok size ∧
        Counts (fun k ↦ (s.committed.contents l.table k).isSome) n ∧
        (n < 2 ^ 63 → size = n) := by
  obtain ⟨n, hrows, hcounts⟩ := Database.query?_count hdb
  have htarget : s.target? false = some s.committed := by simp [TableState.target?, hpending]
  have hspelled : (Call.query false ⟨l, .selectCount, 0⟩ [] [.i64]).inDialect d
      = .ok (.query false ((Command.count l.table).render d) [] [.i64]) := rfl
  have hsingle : arrangement.order s.clock [[.i64 (Int64.ofNat n)]] = [[.i64 (Int64.ofNat n)]] :=
    List.perm_singleton.mp (arrangement.perm s.clock _)
  have hlisted : (Command.count l.table).Listed := trivial
  rw [Action.ensures_bind, Action.ensures_perform hspelled,
    TableState.answer_query hlisted htarget hrows]
  simp only [hsingle, Action.Then]
  rw [Action.ensures_ofExcept]
  refine ⟨⟨hpending, rfl⟩, n, _, rfl, hcounts, fun hn ↦ ?_⟩
  have hint : (Int64.ofNat n).toInt = n := Int64.toInt_ofNat_of_lt hn
  rw [hint, Int.toNat_natCast]

theorem selectKey_tables (key : Key) :
    Action.Ensures (Surface.soundTables d arrangement) d (do
        let rows ← Action.perform
          (.query false ⟨l, .selectKeys, 1⟩ [key.toValue] [l.keyType.fieldType])
        pure !rows.isEmpty) s fun _ outcome s' ↦
      s.Unchanged s' ∧ outcome = .ok (s.committed.contents l.table key).isSome := by
  obtain ⟨there, hrows, -, hthere⟩ := Database.query?_keys hdb [key]
  rw [List.map_singleton] at hrows
  have htarget : s.target? false = some s.committed := by simp [TableState.target?, hpending]
  have hspelled : (Call.query false ⟨l, .selectKeys, 1⟩ [key.toValue]
      [l.keyType.fieldType]).inDialect d = .ok (.query false ((Command.select [l.keyColumn] l.table
        (some ⟨l.keyColumn, 1⟩)).render d) [key.toValue] [l.keyType.fieldType]) := rfl
  have hlisted : (Command.select [l.keyColumn] l.table (some ⟨l.keyColumn, 1⟩)).Listed := by
    simp [Command.Listed, KeyFilter.Listed]
  obtain ⟨found, harranged, hperm⟩ := arrangement.order_map s.clock
    (fun k : Key ↦ [k.toValue]) there
  rw [Action.ensures_bind, Action.ensures_perform hspelled,
    TableState.answer_query hlisted htarget hrows]
  simp only [harranged, Action.Then]
  rw [Action.ensures_pure]
  refine ⟨⟨hpending, rfl⟩, congrArg Except.ok ?_⟩
  have hmem : key ∈ found ↔ (s.committed.contents l.table key).isSome = true := by
    rw [hperm.mem_iff, hthere, List.mem_singleton]
    exact and_iff_right rfl
  cases hsome : (s.committed.contents l.table key).isSome with
  | true =>
      have hne : found ≠ [] := List.ne_nil_of_mem (hmem.mpr hsome)
      simpa using hne
  | false =>
      have hnone : found = [] := by
        refine List.eq_nil_iff_forall_not_mem.mpr fun k hk ↦ ?_
        obtain ⟨hkey, hthere'⟩ := (hthere k).mp (hperm.mem_iff.mp hk)
        rw [List.mem_singleton.mp hkey, hsome] at hthere'
        cases hthere'
      simp [hnone]

end

theorem delete_tables (hdb : s.committed.layouts l.table = some l) (hpending : s.pending = none)
    {statement : Statement} {count : Nat} {filter : Option KeyFilter} {params : List Value}
    {p : Key → Bool}
    (htext : l.text d statement count = .ok (some ((Command.delete l.table filter).render d)))
    (hlisted : KeyFilter.Listed filter)
    (hfilter : ∀ t : Table, t.layout = l → t.filter? filter params = some p) :
    (Action.perform (.write false ⟨l, statement, count⟩ params)).Ensures
      (Surface.soundTables d arrangement) d s fun _ outcome s' ↦
        s'.pending = none ∧ s'.committed.layouts = s.committed.layouts ∧
        s'.committed.contents = s.committed.contents.without l.table p ∧
        ∃ n, outcome = .ok n ∧
          Counts (fun k ↦ p k = true ∧ (s.committed.contents l.table k).isSome) n := by
  obtain ⟨db', n, hwrite, hlayouts, hcontents, hcounts⟩ := Database.write?_delete hdb hfilter
  have htarget : s.target? false = some s.committed := by simp [TableState.target?, hpending]
  have hspelled : (Call.write false ⟨l, statement, count⟩ params).inDialect d
      = .ok (.write false ((Command.delete l.table filter).render d) params) := by
    simp [Call.inDialect, htext, Except.map, Error.ofArgument]
  have hc : (Command.delete l.table filter).Listed := hlisted
  rw [Action.ensures_perform hspelled, TableState.answer_write hc htarget hwrite]
  exact ⟨hpending, hlayouts, hcontents, n, rfl, hcounts⟩

end Store

end

end RecordStore
