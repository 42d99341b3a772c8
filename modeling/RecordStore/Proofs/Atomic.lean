import Mathlib.Data.List.Perm.Basic
import RecordStore.Proofs.Tables.Surface

namespace RecordStore

open Sql (Command)
open Store (insertRow updateRow newRows changedRows writeRows existingKeys keysQuery)

/-!
# A batch is stored as a whole or not at all

On a surface of keyed tables the writes of a batch go to the copy of the open transaction, so that
whatever call fails, the database itself is left as it was. If none does, the copy holds the
database with the whole batch laid over it when it takes its place.
-/

/-- Whatever the order, the arranged images are the images of arranged items. -/
theorem Arrangement.order_map {α : Type} (arrangement : Arrangement) (call : Nat) (f : α → Row)
    (xs : List α) :
    ∃ ys : List α, arrangement.order call (xs.map f) = ys.map f ∧ ys.Perm xs := by
  have hperm := arrangement.perm call (xs.map f)
  rwa [← congrFun (congrFun (List.eq_map_comp_perm f) _) _] at hperm

namespace Store

theorem keysOf_map (keys : List Key) : keysOf (keys.map fun k ↦ [k.toValue]) = .ok keys := by
  induction keys with
  | nil => rfl
  | cons k keys ih =>
      simp only [keysOf, List.map_cons, List.flatten_cons, List.cons_append, List.nil_append,
        List.mapM_cons] at ih ⊢
      rw [Key.ofValue_toValue, ih]
      rfl

variable {d : Dialect} {arrangement : Arrangement} {faults : Nat → Option Fault} {s : TableState}
  {db db' : Database} {l : Layout}

theorem existingKeys_tables {slices : List (List Key)} (hslices : ∀ slice ∈ slices, slice ≠ [])
    (hpending : s.pending = some db) (hdb : db.layouts l.table = some l) :
    (existingKeys l slices).Ensures (Surface.tables d arrangement faults) d s fun _ outcome s' ↦
      s'.committed = s.committed ∧ s'.pending = some db ∧
      (∀ found, outcome = .ok found →
        ∀ k, k ∈ found ↔ k ∈ slices.flatten ∧ (db.contents l.table k).isSome) ∧
      ((∀ call, faults call = none) → ∃ found, outcome = .ok found) := by
  induction slices generalizing s with
  | nil =>
      refine ⟨rfl, hpending, ?_, fun _ ↦ ⟨[], rfl⟩⟩
      rintro found ⟨⟩ k
      simp
  | cons slice slices ih =>
      obtain ⟨hslice, hrest⟩ := List.forall_mem_cons.mp hslices
      obtain ⟨there, hrows, -, hthere⟩ := Database.query?_keys hdb slice
      have hlisted : (Command.select [l.keyColumn] l.table
          (some ⟨l.keyColumn, slice.length⟩)).Listed := by
        simpa [Command.Listed, Sql.KeyFilter.Listed] using hslice
      have htarget : s.target? true = some db := by simp [TableState.target?, hpending]
      have hanswer : (Surface.tables d arrangement faults).answer (keysQuery d l slice) s = _ :=
        TableState.answer_query hlisted htarget hrows
      rw [existingKeys, Action.ensures_bind, Action.ensures_perform (inDialect_keysQuery hslice),
        hanswer]
      cases hfault : faults s.clock with
      | some f =>
          refine ⟨rfl, hpending, ?_, fun hnone ↦ ?_⟩
          · rintro found ⟨⟩
          · rw [hnone] at hfault
            cases hfault
      | none =>
          obtain ⟨found, harranged, hperm⟩ := arrangement.order_map s.clock
            (fun k : Key ↦ [k.toValue]) there
          simp only [harranged, Action.Then]
          rw [Action.ensures_bind, Action.ensures_ofExcept, keysOf_map]
          simp only [Action.Then]
          rw [Action.ensures_bind]
          refine (ih hrest (s := s.tick) hpending).mono ?_
          rintro log outcome s' ⟨hcommitted, hpending', hfound, hnone⟩
          cases outcome with
          | error e => exact ⟨hcommitted, hpending', by simp, hnone⟩
          | ok rest =>
              refine ⟨hcommitted, hpending', ?_, fun _ ↦ ⟨_, rfl⟩⟩
              rintro _ ⟨⟩ k
              rw [List.mem_append, hperm.mem_iff, hthere, hfound rest rfl, List.flatten_cons,
                List.mem_append, or_and_right]

theorem writeRows_tables {statement : Statement} {c : Command} {rows : List Row}
    {counts : List Nat} (hpending : s.pending = some db)
    (hc : rows ≠ [] → l.text d statement 0 = .ok (some (c.render d)) ∧ c.Listed)
    (hwrite : Database.writeAll c db rows = (db', some counts)) :
    (writeRows l statement rows).Ensures (Surface.tables d arrangement faults) d s
      fun _ outcome s' ↦ s'.committed = s.committed ∧
        (outcome = .ok () → s'.pending = some db') ∧
        ((∀ call, faults call = none) → outcome = .ok ()) := by
  unfold writeRows
  split
  · next hrows =>
    subst hrows
    cases hwrite
    exact ⟨rfl, fun _ ↦ hpending, fun _ ↦ rfl⟩
  · next hrows =>
    obtain ⟨htext, hlisted⟩ := hc hrows
    have htarget : s.target? true = some db := by simp [TableState.target?, hpending]
    have hspelled : (Call.batchWrite true ⟨l, statement, 0⟩ rows).inDialect d
        = .ok (.batchWrite true (c.render d) rows) := by
      simp [Call.inDialect, htext, Except.map, Error.ofArgument]
    rw [Action.ensures_discard, Action.ensures_perform hspelled,
      TableState.answer_batchWrite hlisted htarget hwrite]
    cases hfault : faults s.clock with
    | some f =>
        refine ⟨rfl, by simp [Except.map], fun hnone ↦ ?_⟩
        rw [hnone] at hfault
        cases hfault
    | none => exact ⟨rfl, fun _ ↦ rfl, fun _ ↦ rfl⟩

/-! ## The two batches of an accepted batch -/

theorem values_of_no_fields {k : Key} {values : List Value} (hdb : db.layouts l.table = some l)
    (hfields : l.fields = []) (hvalues : db.contents l.table k = some values) : values = [] := by
  obtain ⟨t, ht, hlayout⟩ := Database.exists_table hdb
  rw [Database.contents_eq ht] at hvalues
  have htypes := t.typed k values hvalues
  simpa [hlayout, Layout.fieldTypes, hfields] using htypes

section

variable {m : Contents} {records : List Record} {existing : List Key}

theorem mem_present {r : Record} :
    r ∈ records.filter (·.key ∈ existing) ↔ r ∈ records ∧ r.key ∈ existing := by
  rw [List.mem_filter, decide_eq_true_eq]

theorem mem_new {r : Record} :
    r ∈ records.filter (·.key ∉ existing) ↔ r ∈ records ∧ r.key ∉ existing := by
  rw [List.mem_filter, decide_eq_true_eq]

/-- The new records over the contents, and then the others, are the whole batch over them. -/
theorem overlay_present (hkeys : (records.map Record.key).Nodup) :
    (m.overlay (records.filter (·.key ∉ existing))).overlay (records.filter (·.key ∈ existing))
      = m.overlay records := by
  have hnew : ((records.filter (·.key ∉ existing)).map Record.key).Nodup :=
    hkeys.sublist (List.filter_sublist.map _)
  have hpresent : ((records.filter (·.key ∈ existing)).map Record.key).Nodup :=
    hkeys.sublist (List.filter_sublist.map _)
  refine Contents.overlay_overlay m hkeys (fun r ↦ ?_) hnew hpresent
  rw [mem_new, mem_present]
  tauto

/-- The new records leave what stands under the other keys as it is. -/
theorem contents_present {table : TableName} {r : Record}
    (hr : r ∈ records.filter (·.key ∈ existing)) :
    m.overlay (records.filter (·.key ∉ existing)) table r.key = m table r.key := by
  apply Contents.overlay_of_not_mem
  intro r' hr' _ hkey
  have hfresh := (mem_new.mp hr').2
  rw [hkey] at hfresh
  exact hfresh (mem_present.mp hr).2

end

section

variable {records : List Record} {existing : List Key} (hlayout : ∀ r ∈ records, r.layout = l)
  (hkeys : (records.map Record.key).Nodup) (haligned : ∀ r ∈ records, r.Aligned)
  (hdb : db.layouts l.table = some l)
  (hexisting : ∀ r ∈ records, r.key ∈ existing ↔ (db.contents l.table r.key).isSome)

include hlayout haligned hdb hexisting

/-- Without fields the records that are there are there already. -/
theorem stored_present (hfields : l.fields = []) {r : Record}
    (hr : r ∈ records.filter (·.key ∈ existing)) :
    db.contents r.layout.table r.key = some r.values := by
  obtain ⟨hmem, hthere⟩ := mem_present.mp hr
  obtain rfl := hlayout r hmem
  obtain ⟨values, hvalues⟩ := Option.isSome_iff_exists.mp ((hexisting r hmem).mp hthere)
  have hempty : r.values = [] := by
    have htypes := haligned r hmem
    simpa [Record.Aligned, Layout.fieldTypes, hfields] using htypes
  rw [hvalues, values_of_no_fields hdb hfields hvalues, hempty]

include hkeys

theorem writeAll_newRows (hl : l.Sound) :
    ∃ db' counts, Database.writeAll (.insert l.table l.columns (l.fieldCount + 1)) db
        (newRows records existing) = (db', some counts) ∧
      db'.layouts = db.layouts ∧
      db'.contents = db.contents.overlay (records.filter (·.key ∉ existing)) := by
  refine Database.writeAll_overlay insertRow (· = none)
    (fun r hr ↦ hlayout r (mem_new.mp hr).1) (hkeys.sublist (List.filter_sublist.map _))
    ?_ hdb ?_
  · intro db₁ r hr hdb₁ hbefore
    have hmem := (mem_new.mp hr).1
    obtain rfl := hlayout r hmem
    exact Database.write?_insert hl hdb₁ (haligned r hmem) hbefore
  · intro r hr
    obtain ⟨hmem, hnew⟩ := mem_new.mp hr
    rwa [← Option.not_isSome_iff_eq_none, ← hexisting r hmem]

/-- After that the other rows are updated, and the whole batch lies over the database. -/
theorem writeAll_changedRows (hl : l.Sound) {db₁ : Database} (hlayouts : db₁.layouts = db.layouts)
    (hcontents : db₁.contents = db.contents.overlay (records.filter (·.key ∉ existing))) :
    ∃ db' counts, Database.writeAll (.update l.table l.fieldNames l.keyColumn) db₁
        (changedRows l records existing) = (db', some counts) ∧
      db'.layouts = db.layouts ∧ db'.contents = db.contents.overlay records := by
  have hoverlay : db₁.contents.overlay (records.filter (·.key ∈ existing))
      = db.contents.overlay records := by
    rw [hcontents, overlay_present hkeys]
  have hbefore : ∀ r ∈ records.filter (·.key ∈ existing), ∀ table,
      db₁.contents table r.key = db.contents table r.key := by
    intro r hr table
    rw [hcontents, contents_present hr]
  unfold changedRows
  split
  · next hfields =>
    refine ⟨db₁, [], rfl, hlayouts, ?_⟩
    rw [← hoverlay, Contents.overlay_eq_self]
    intro r hr
    rw [hbefore r hr]
    exact stored_present hlayout haligned hdb hexisting hfields hr
  · have hupdate : ∀ db₂ : Database, ∀ r ∈ records.filter (·.key ∈ existing),
        db₂.layouts l.table = some l → (db₂.contents l.table r.key).isSome = true →
        ∃ db', db₂.write? (.update l.table l.fieldNames l.keyColumn) (updateRow r)
          = some (db', 1) ∧ db'.layouts = db₂.layouts ∧
          db'.contents = db₂.contents.overlay [r] := by
      intro db₂ r hr hdb₂ hsome
      have hmem := (mem_present.mp hr).1
      obtain rfl := hlayout r hmem
      exact Database.write?_update hl hdb₂ (haligned r hmem) hsome
    have hthere : ∀ r ∈ records.filter (·.key ∈ existing),
        (db₁.contents l.table r.key).isSome = true := by
      intro r hr
      obtain ⟨hmem, hthere⟩ := mem_present.mp hr
      rw [hbefore r hr]
      exact (hexisting r hmem).mp hthere
    obtain ⟨db', counts, hwritten, hlayouts', hcontents'⟩ :=
      Database.writeAll_overlay updateRow (·.isSome)
        (fun r hr ↦ hlayout r (mem_present.mp hr).1)
        (hkeys.sublist (List.filter_sublist.map _)) hupdate (by rw [hlayouts, hdb]) hthere
    exact ⟨db', counts, hwritten, hlayouts'.trans hlayouts, hcontents'.trans hoverlay⟩

end

/-- Up to the end of the transaction nothing but its copy changes, and if no call fails the copy
has the whole batch laid over it. -/
theorem upsert_tables {store : Store} {records : List Record}
    (hadmits : Admits store.registry.get? l records) (haligned : ∀ r ∈ records, r.Aligned)
    (hl : l.Sound) (hdb : db.layouts l.table = some l) (hpending : s.pending = some db) :
    (store.upsert l records).Ensures (Surface.tables d arrangement faults) d s
      fun _ outcome s' ↦ s'.committed = s.committed ∧
        (outcome = .ok () → ∃ db', s'.pending = some db' ∧ db'.layouts = db.layouts ∧
          db'.contents = db.contents.overlay records) ∧
        ((∀ call, faults call = none) → outcome = .ok ()) := by
  rw [upsert_eq, Action.ensures_bind]
  refine (existingKeys_tables (fun slice h ↦ ne_nil_of_mem_chunks h) hpending hdb).mono ?_
  rintro log outcome s₁ ⟨hcommitted₁, hpending₁, hfound, hnone₁⟩
  cases outcome with
  | error e => exact ⟨hcommitted₁, by simp, fun hnone ↦ by simpa using hnone₁ hnone⟩
  | ok existing =>
      have hexisting : ∀ r ∈ records, r.key ∈ existing ↔ (db.contents l.table r.key).isSome := by
        intro r hr
        rw [hfound existing rfl, flatten_chunks]
        exact and_iff_right (List.mem_map.mpr ⟨r, hr, rfl⟩)
      obtain ⟨db₁, counts₁, hinserted, hlayouts₁, hcontents₁⟩ :=
        writeAll_newRows hadmits.layouts hadmits.keys haligned hdb hexisting hl
      obtain ⟨db₂, counts₂, hupdated, hlayouts₂, hcontents₂⟩ :=
        writeAll_changedRows hadmits.layouts hadmits.keys haligned hdb hexisting hl hlayouts₁
          hcontents₁
      simp only [Action.Then]
      rw [Action.ensures_bind]
      refine (writeRows_tables hpending₁ (fun _ ↦ ⟨rfl, ?_⟩) hinserted).mono ?_
      · exact ⟨by simp [Layout.columns], by simp⟩
      rintro log outcome s₂ ⟨hcommitted₂, hpending₂, hnone₂⟩
      cases outcome with
      | error e => exact ⟨hcommitted₂.trans hcommitted₁, by simp, hnone₂⟩
      | ok _ =>
          simp only [Action.Then]
          refine (writeRows_tables (hpending₂ rfl) (fun hrows ↦ ?_) hupdated).mono ?_
          · have hfields : l.fields ≠ [] := fun h ↦ hrows (by simp [changedRows, h])
            refine ⟨by simp [Layout.text, Statement.isSized, Layout.sql?, Layout.command?, hfields],
              ?_⟩
            simpa [Command.Listed, Layout.fieldNames] using hfields
          rintro log outcome s₃ ⟨hcommitted₃, hpending₃, hnone₃⟩
          exact ⟨hcommitted₃.trans (hcommitted₂.trans hcommitted₁),
            fun hok ↦ ⟨db₂, hpending₃ hok, hlayouts₂, hcontents₂⟩, hnone₃⟩

/-! ## The whole transaction -/

/-- A transaction over an accepted batch leaves the database alone or lays the batch over it. -/
theorem transaction_tables {store : Store} {records : List Record}
    (hadmits : Admits store.registry.get? l records) (haligned : ∀ r ∈ records, r.Aligned)
    (hl : l.Sound) (hdb : s.committed.layouts l.table = some l) (hpending : s.pending = none) :
    (inTransaction (store.upsert l records)).Ensures (Surface.tables d arrangement faults) d s
      fun _ outcome s' ↦ s'.pending = none ∧
        (∀ e, outcome = .error e → s'.committed = s.committed) ∧
        (outcome = .ok () → s'.committed.layouts = s.committed.layouts ∧
          s'.committed.contents = s.committed.contents.overlay records) ∧
        ((∀ call, faults call = none) → outcome = .ok ()) := by
  refine ensures_inTransaction ?_ ?_
  · intro e he
    rw [TableState.answer_openTransaction hpending] at he ⊢
    cases hfault : faults s.clock with
    | some f =>
        refine ⟨hpending, fun _ _ ↦ rfl, by simp, fun hnone ↦ ?_⟩
        rw [hnone] at hfault
        cases hfault
    | none =>
        rw [hfault] at he
        cases he
  · intro hopened
    rw [TableState.answer_openTransaction hpending] at hopened ⊢
    cases hfault : faults s.clock with
    | some f =>
        rw [hfault] at hopened
        cases hopened
    | none =>
        refine (upsert_tables hadmits haligned hl hdb rfl).mono ?_
        rintro log outcome s' ⟨hcommitted, hok, hnone⟩
        cases outcome with
        | error e =>
            simp only [Closing, TableState.answer_rollback]
            exact ⟨trivial, fun _ _ ↦ hcommitted, by simp, hnone⟩
        | ok _ =>
            obtain ⟨db', hpending', hlayouts, hcontents⟩ := hok rfl
            simp only [Closing, TableState.answer_commit hpending']
            cases hfault : faults s'.clock with
            | some f =>
                refine ⟨rfl, fun _ _ ↦ hcommitted, by simp, fun hnone ↦ ?_⟩
                rw [hnone] at hfault
                cases hfault
            | none => exact ⟨rfl, by simp, fun _ ↦ ⟨hlayouts, hcontents⟩, fun _ ↦ rfl⟩

/-- What storing a batch does to keyed tables. -/
structure Stores (store : Store) (entries : List (Option Record)) (s : TableState)
    (outcome : Except Error (List Record)) (s' : TableState) : Prop where
  closed : s'.pending = none
  unchanged : ∀ e, outcome = .error e → s'.committed = s.committed
  overlaid : ∀ stored, outcome = .ok stored → stored = entries.reduceOption ∧
    s'.committed.layouts = s.committed.layouts ∧
    s'.committed.contents = s.committed.contents.overlay entries.reduceOption
  refused : entries.reduceOption ≠ [] →
    (∀ l, ¬ Admits store.registry.get? l entries.reduceOption) →
    ∃ fault, outcome = .error (.illegalArgument fault)

theorem putAll_tables {store : Store} (hstore : store.registry.Reachable)
    {entries : List (Option Record)} (haligned : ∀ r ∈ entries.reduceOption, r.Aligned)
    (hserves : s.committed.Serves store.registry.get?) (hpending : s.pending = none) :
    (store.putAll entries).Ensures (Surface.tables d arrangement faults) d s fun _ outcome s' ↦
      store.Stores entries s outcome s' ∧
      ((∀ call, faults call = none) →
        entries.reduceOption = [] ∨ (∃ l, Admits store.registry.get? l entries.reduceOption) →
        ∃ stored, outcome = .ok stored) := by
  by_cases hpresent : entries.reduceOption = []
  · rw [putAll_of_none hpresent, Action.ensures_pure]
    refine ⟨⟨hpending, by simp, ?_, fun h ↦ absurd hpresent h⟩, fun _ _ ↦ ⟨[], rfl⟩⟩
    rintro stored ⟨⟩
    exact ⟨hpresent.symm, rfl, by rw [hpresent, Contents.overlay_nil]⟩
  by_cases hadmits : ∃ l, Admits store.registry.get? l entries.reduceOption
  · obtain ⟨l, hadmits⟩ := hadmits
    have hl : l.Sound := (hstore.sound.layouts hadmits.registered).2
    have hdb := hserves l.typeName l hadmits.registered
    rw [putAll_of_admits hadmits hpresent, Action.ensures_bind, Action.ensures_announce]
    simp only [Action.Then]
    rw [Action.ensures_bind, Action.ensures_during]
    refine (transaction_tables hadmits haligned hl hdb hpending).mono ?_
    rintro log outcome s' ⟨hclosed, hunchanged, hoverlaid, hnone⟩
    cases outcome with
    | error e =>
        refine ⟨⟨hclosed, fun _ _ ↦ hunchanged e rfl, by simp, fun _ h ↦ absurd hadmits (h l)⟩,
          fun hnone' _ ↦ ?_⟩
        cases hnone hnone'
    | ok _ =>
        obtain ⟨hlayouts, hcontents⟩ := hoverlaid rfl
        simp only [Action.Then, Except.mapError]
        rw [Action.ensures_bind, Action.ensures_announce]
        simp only [Action.Then]
        rw [Action.ensures_pure]
        refine ⟨⟨hclosed, by simp, ?_, fun _ h ↦ absurd hadmits (h l)⟩, fun _ _ ↦ ⟨_, rfl⟩⟩
        rintro stored ⟨⟩
        exact ⟨rfl, hlayouts, hcontents⟩
  · obtain ⟨fault, hrefused⟩ := putAll_of_not_admits (fun l h ↦ hadmits ⟨l, h⟩) hpresent
    rw [hrefused, Action.ensures_throw]
    refine ⟨⟨hpending, fun _ _ ↦ rfl, by simp, fun _ _ ↦ ⟨fault, rfl⟩⟩, fun _ h ↦ ?_⟩
    rcases h with h | h
    · exact absurd h hpresent
    · exact absurd h hadmits

end Store

/-- Whatever calls fail: after a failure the database is the one from before, and after a success it
is that one with every record of the batch laid over it. No transaction is left open. -/
theorem putAll_all_or_nothing (d : Dialect) (arrangement : Arrangement)
    (faults : Nat → Option Fault) {store : Store} (hstore : store.registry.Reachable)
    {entries : List (Option Record)} (hbuilt : ∀ r ∈ entries.reduceOption, r.Built)
    {s : TableState} (hserves : s.committed.Serves store.registry.get?)
    (hpending : s.pending = none) :
    let o := (store.putAll entries).run.run (Surface.tables d arrangement faults) d
      store.registry s
    o.state.pending = none ∧
      match o.result with
      | .error _ => o.state.committed = s.committed
      | .ok _ => o.state.committed.layouts = s.committed.layouts ∧
          o.state.committed.contents = s.committed.contents.overlay entries.reduceOption := by
  intro o
  obtain ⟨⟨log, -, -, hstores, -⟩, -, -⟩ := (Store.putAll_tables hstore
    (fun r hr ↦ (hbuilt r hr).aligned) hserves hpending).run hstore
    (Store.within_putAll store entries)
  refine ⟨hstores.closed, ?_⟩
  cases hresult : o.result with
  | error e => exact hstores.unchanged e hresult
  | ok stored => exact (hstores.overlaid stored hresult).2

/-- The insertion of two notes fails after the first of them. -/
theorem putAll_all_or_nothing_torn_insertion :
    let t : RecordType := ⟨"Note", none, "id", .int, [⟨"getTitle", .text, false⟩]⟩
    let l : Layout := ⟨"Note", none, "id", .int, [("title", .text)]⟩
    let store : Store := ⟨(Registry.empty.register t).2, ⟨0⟩, false⟩
    let entries : List (Option Record) :=
      [some ⟨l, .int 1, [.text "a"]⟩, none, some ⟨l, .int 2, [.text "b"]⟩]
    let arrangement : Arrangement := ⟨fun _ rows ↦ rows.reverse, fun _ _ ↦ List.reverse_perm _⟩
    let faults (call : Nat) : Option Fault := if call = 3 then some ⟨.io "torn", 1⟩ else none
    let s : TableState := ⟨Database.ofRegistry store.registry, none, 0⟩
    let o := (store.putAll entries).run.run (Surface.tables .mysql arrangement faults) .mysql
      store.registry s
    store.registry.Reachable ∧ (∀ r ∈ entries.reduceOption, r.Built) ∧
      s.committed.Serves store.registry.get? ∧ s.pending = none ∧
      o.result.isOk = false ∧ o.state.clock = 5 ∧ o.state.committed = s.committed := by
  intro t l store entries arrangement faults s o
  have hstore : store.registry.Reachable := .register t .empty
  have hbuilt : ∀ r ∈ entries.reduceOption, r.Built := by
    simp only [Record.built_iff_aligned]
    decide
  have hserves : s.committed.Serves store.registry.get? := Database.serves_ofRegistry hstore.sound
  have hfailed : o.result.isOk = false := by decide +kernel
  have hcalls : o.state.clock = 5 := by decide +kernel
  obtain ⟨-, hunchanged⟩ :=
    putAll_all_or_nothing .mysql arrangement faults hstore hbuilt hserves rfl
  refine ⟨hstore, hbuilt, hserves, rfl, hfailed, hcalls, ?_⟩
  cases hresult : o.result with
  | error e => simpa only [o, hresult] using hunchanged
  | ok stored =>
      rw [hresult] at hfailed
      cases hfailed

end RecordStore
