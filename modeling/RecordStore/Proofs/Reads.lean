import RecordStore.Proofs.Taking
import RecordStore.Proofs.Transaction

namespace RecordStore

open Sql (Command)
open Store (Takes)

/-!
# Reads in slices

A long list of keys is read slice by slice, each slice by one query of its own outside of any
transaction. The rows of an answer become records one after another. The first query that fails, or
the first row that does not become a record, ends the whole read.
-/

/-! ## Rows that become records -/

namespace Record

/-- The record that a row becomes: the first cell is its key, and the cells behind it, converted to
the types of their fields, are its values. -/
structure Fills (l : Layout) (row : Row) (r : Record) : Prop where
  layout : r.layout = l
  width : row.length = l.fieldCount + 1
  key : row.head?.bind Key.ofValue? = some r.key
  values : List.zipWith Value.coerceTo row.tail l.fieldTypes = r.values.map some
  fields : ∀ field type, (field, type) ∈ l.fields → ∃ cell w,
    (l.columns.zip row).lookup field = some cell ∧ cell.coerceTo type = some w ∧
      r.value field = .ok w

/-- A row of the wrong width, without a key, or with a cell that cannot be converted to the type of
its field. -/
inductive Misfit (l : Layout) (row : Row) : Prop
  | width : row.length ≠ l.fieldCount + 1 → Misfit l row
  | key (hint : FieldType) : row.head? = some (.null hint) → Misfit l row
  | cell {i : Nat} {v : Value} {type : FieldType} : row[i + 1]? = some v →
    l.fieldTypes[i]? = some type → v.coerceTo type = none → Misfit l row

/-- The value in the place of a field is the cell behind it, converted. -/
theorem getElem_values {l : Layout} {row : Row} {r : Record}
    (h : List.zipWith Value.coerceTo row.tail l.fieldTypes = r.values.map some) {i : Nat}
    (hcell : i + 1 < row.length) (htype : i < l.fieldTypes.length) :
    ∃ hvalue : i < r.values.length,
      row[i + 1].coerceTo l.fieldTypes[i] = some r.values[i] := by
  have hlength := congrArg List.length h
  rw [List.length_zipWith, List.length_tail, List.length_map] at hlength
  have hvalue : i < r.values.length := by omega
  have hplace : (List.zipWith Value.coerceTo row.tail l.fieldTypes)[i]?
      = (r.values.map some)[i]? := by
    rw [h]
  rw [List.getElem?_zipWith, List.getElem?_tail, List.getElem?_eq_getElem hcell,
    List.getElem?_eq_getElem htype, List.getElem?_map, List.getElem?_eq_getElem hvalue] at hplace
  exact ⟨hvalue, Option.some.inj hplace⟩

theorem ofRow_eq_ok_iff_fills {l : Layout} (hl : l.Sound) {row : Row} {r : Record} :
    ofRow l row = .ok r ↔ Fills l row r := by
  constructor
  · intro h
    obtain ⟨rfl, hwidth, hkey, hvalues⟩ := ofRow_eq_ok.mp h
    refine ⟨rfl, hwidth, hkey, hvalues, fun field type hmem ↦ ?_⟩
    obtain ⟨i, hi, hfield⟩ := List.mem_iff_getElem.mp hmem
    have hname : i < r.layout.fieldNames.length := by simpa [Layout.fieldCount] using hi
    have htype : i < r.layout.fieldTypes.length := by simpa [Layout.fieldCount] using hi
    have hcell : i + 1 < row.length := by
      rw [hwidth, ← Layout.length_fieldNames]
      omega
    have hcolumn : i + 1 < r.layout.columns.length := by simpa [Layout.columns] using hname
    obtain ⟨hvalue, hcoerced⟩ := getElem_values hvalues hcell htype
    obtain rfl : r.layout.fieldNames[i] = field := by simp [Layout.fieldNames, hfield]
    obtain rfl : r.layout.fieldTypes[i] = type := by simp [Layout.fieldTypes, hfield]
    exact ⟨row[i + 1], r.values[i], lookup_zip_getElem hl.nodup_columns hcolumn hcell, hcoerced,
      value_eq (lookup_zip_getElem hl.nodup_fieldNames hname hvalue)⟩
  · intro h
    exact ofRow_eq_ok.mpr ⟨h.layout, h.width, h.key, h.values⟩

theorem Misfit.exists_error {l : Layout} {row : Row} (h : Misfit l row) :
    ∃ e, ofRow l row = .error e := by
  cases hrow : ofRow l row with
  | error e => exact ⟨e, rfl⟩
  | ok r =>
      obtain ⟨rfl, hwidth, hkey, hvalues⟩ := ofRow_eq_ok.mp hrow
      cases h with
      | width hne => exact absurd hwidth hne
      | key hint hnull => simp [hnull, Key.ofValue?] at hkey
      | cell hcell htype hnone =>
          obtain ⟨hi, rfl⟩ := List.getElem?_eq_some_iff.mp hcell
          obtain ⟨hi', rfl⟩ := List.getElem?_eq_some_iff.mp htype
          obtain ⟨hvalue, hcoerced⟩ := getElem_values hvalues hi hi'
          rw [hnone] at hcoerced
          cases hcoerced

end Record

/-! ## Queries and their answers -/

/-- The query for one slice of keys, outside of any transaction. -/
def someQuery (d : Dialect) (l : Layout) (slice : List Key) : Call String .rows :=
  .query false ((Command.select l.columns l.table (some ⟨l.keyColumn, slice.length⟩)).render d)
    (slice.map Key.toValue) l.rowShape

/-- The records that the rows of an answer become, or how the call or the first bad row failed. -/
def Exchange.records (l : Layout) : Exchange → Except Error (List Record)
  | @mk .rows _ reply => reply.bind fun rows ↦ rows.mapM (Record.ofRow l)
  | @mk _ _ reply => reply.map fun _ ↦ []

/-- The rows up to the first that does not become a record. -/
def Layout.tried (l : Layout) : List Row → List Row
  | [] => []
  | row :: rest => row :: if (Record.ofRow l row).isOk then l.tried rest else []

/-- What a query leaves in the log: the call itself, and a notice of every row that is looked at. -/
def Exchange.entries (l : Layout) : Exchange → List Entry
  | x@(@mk .rows _ (.ok rows)) =>
    .exchange x :: (l.tried rows).map fun row ↦ .notice (.materializing l.typeName row)
  | x => [.exchange x]

/-- How a read of slices goes. The slices are asked for one by one and all their records are found;
or the queries end with the first slice that fails, and so does the read. -/
inductive Gathered (d : Dialect) (l : Layout) (slices : List (List Key)) :
    List Exchange → Except Error (List Record) → Prop
  | complete {log : List Exchange} {found : List (List Record)} :
    log.map Exchange.event = slices.map (fun slice ↦ .call (someQuery d l slice)) →
    List.Forall₂ (fun x records ↦ x.records l = .ok records) log found →
    Gathered d l slices log (.ok found.flatten)
  | broken {before : List Exchange} {last : Exchange} {e : Error} :
    (before ++ [last]).map Exchange.event
      <+: slices.map (fun slice ↦ .call (someQuery d l slice)) →
    (∀ x ∈ before, (x.records l).isOk = true) → last.records l = .error e →
    Gathered d l slices (before ++ [last]) (.error e)

namespace Gathered

variable {d : Dialect} {l : Layout} {slice : List Key} {slices : List (List Key)} {x : Exchange}
  {log : List Exchange} {outcome : Except Error (List Record)}

theorem nil : Gathered d l [] [] (.ok []) :=
  complete rfl List.Forall₂.nil

theorem failed {e : Error} (hevent : x.event = .call (someQuery d l slice))
    (hx : x.records l = .error e) : Gathered d l (slice :: slices) [x] (.error e) := by
  have hprefix : ([] ++ [x]).map Exchange.event
      <+: (slice :: slices).map fun slice ↦ .call (someQuery d l slice) := by
    simp [hevent]
  exact broken hprefix (by simp) hx

theorem cons {records : List Record} (hevent : x.event = .call (someQuery d l slice))
    (hx : x.records l = .ok records) (h : Gathered d l slices log outcome) :
    Gathered d l (slice :: slices) (x :: log) (outcome.map (records ++ ·)) := by
  cases h with
  | @complete log found hlog hfound =>
      have hall : List.Forall₂ (fun x records ↦ x.records l = .ok records) (x :: log)
          (records :: found) := .cons hx hfound
      exact complete (by simp [hevent, hlog]) hall
  | @broken before last e hlog hbefore hlast =>
      have hprefix : ((x :: before) ++ [last]).map Exchange.event
          <+: (slice :: slices).map fun slice ↦ .call (someQuery d l slice) := by
        simpa [hevent] using hlog
      have hok : ∀ y ∈ x :: before, (y.records l).isOk = true := by
        rw [List.forall_mem_cons]
        exact ⟨by simp [hx, Except.isOk, Except.toBool], hbefore⟩
      exact broken hprefix hok hlast

end Gathered

/-- A call and the answer that the surface gives to it. -/
def Surface.exchange {σ : Type} {k : ReplyKind} (surface : Surface σ) (c : Call String k) (s : σ) :
    Exchange :=
  ⟨c, (surface.answer c s).1⟩

namespace Store

variable {σ : Type} {surface : Surface σ} {d : Dialect} {s : σ} {l : Layout} {slice : List Key}

theorem inDialect_someQuery (d : Dialect) (l : Layout) (h : slice ≠ []) :
    (Call.query false ⟨l, .selectSome, slice.length⟩ (slice.map Key.toValue) l.rowShape).inDialect d
      = .ok (someQuery d l slice) := by
  simp [Call.inDialect, Layout.text, Statement.isSized, h, Layout.sql?, Layout.command?,
    Except.map, Error.ofArgument, someQuery]

theorem ensures_materialize {rows : List Row}
    {Q : List Entry → Except Error (List Record) → σ → Prop} :
    (materialize l rows).Ensures surface d s Q ↔
      Q ((l.tried rows).map fun row ↦ .notice (.materializing l.typeName row))
        (rows.mapM (Record.ofRow l)) s := by
  induction rows generalizing Q with
  | nil => exact Action.ensures_pure
  | cons row rows ih =>
      rw [materialize, Action.ensures_bind, Action.ensures_tell]
      simp only [Action.Then]
      rw [Action.ensures_bind, Action.ensures_ofExcept, Layout.tried, List.mapM_cons]
      cases hrow : Record.ofRow l row with
      | error e => exact .rfl
      | ok r =>
          simp only [Action.Then]
          rw [Action.ensures_bind, ih]
          cases rows.mapM (Record.ofRow l) with
          | error e => exact .rfl
          | ok found =>
              simp only [Action.Then]
              rw [Action.ensures_pure]
              simp [Except.isOk, Except.toBool, bind, Except.bind, pure, Except.pure]

theorem records_exchange (spelled : Call String .rows) (s : σ) :
    (surface.exchange spelled s).records l
      = (surface.answer spelled s).1 >>= fun rows ↦ rows.mapM (Record.ofRow l) := rfl

/-- Asking for rows leaves the entries of the query, and gives the records of its answer. -/
theorem ensures_asked {asked : Call Request .rows} {spelled : Call String .rows}
    (hspelled : asked.inDialect d = .ok spelled)
    {Q : List Entry → Except Error (List Record) → σ → Prop} :
    (do
      let rows ← Action.perform asked
      materialize l rows).Ensures surface d s Q ↔
      Q ((surface.exchange spelled s).entries l) ((surface.exchange spelled s).records l)
        (surface.answer spelled s).2 := by
  rw [Action.ensures_bind, Action.ensures_perform hspelled, Surface.exchange]
  cases (surface.answer spelled s).1 with
  | error e => exact .rfl
  | ok rows =>
      simp only [Action.Then]
      rw [ensures_materialize]
      exact .rfl

theorem ensures_slice (hslice : slice ≠ []) {Q : List Entry → Except Error (List Record) → σ → Prop} :
    (do
      let rows ← Action.perform
        (.query false ⟨l, .selectSome, slice.length⟩ (slice.map Key.toValue) l.rowShape)
      materialize l rows).Ensures surface d s Q ↔
      Q ((surface.exchange (someQuery d l slice) s).entries l)
        ((surface.exchange (someQuery d l slice) s).records l)
        (surface.answer (someQuery d l slice) s).2 :=
  ensures_asked (inDialect_someQuery d l hslice)

theorem fetchChunks_cons (l : Layout) (slice : List Key) (slices : List (List Key)) :
    fetchChunks l (slice :: slices) = (do
      let rows ← Action.perform
        (.query false ⟨l, .selectSome, slice.length⟩ (slice.map Key.toValue) l.rowShape)
      materialize l rows) >>= fun found ↦ (do
        let rest ← fetchChunks l slices
        pure (found ++ rest)) := by
  rw [fetchChunks, bind_assoc]

/-- The slices are gathered in their order. -/
theorem ensures_fetchChunks {slices : List (List Key)} (hslices : ∀ slice ∈ slices, slice ≠ [])
    (s : σ) : (fetchChunks l slices).Ensures surface d s fun log outcome _ ↦
      ∃ exchanges : List Exchange, log = exchanges.flatMap (Exchange.entries l) ∧
        Gathered d l slices exchanges outcome := by
  induction slices generalizing s with
  | nil => exact ⟨[], rfl, .nil⟩
  | cons slice slices ih =>
      obtain ⟨hslice, hrest⟩ := List.forall_mem_cons.mp hslices
      rw [fetchChunks_cons, Action.ensures_bind, ensures_slice hslice]
      have hevent : (surface.exchange (someQuery d l slice) s).event
          = .call (someQuery d l slice) := rfl
      cases hrecords : (surface.exchange (someQuery d l slice) s).records l with
      | error e => exact ⟨[_], by simp, .failed hevent hrecords⟩
      | ok records =>
          simp only [Action.Then]
          rw [Action.ensures_bind]
          refine (ih hrest _).mono ?_
          rintro log outcome s' ⟨exchanges, rfl, hgathered⟩
          have hcons := Gathered.cons hevent hrecords hgathered
          cases outcome with
          | error e => exact ⟨_ :: exchanges, by simp, hcons⟩
          | ok rest =>
              simp only [Action.Then]
              rw [Action.ensures_pure]
              exact ⟨_ :: exchanges, by simp, hcons⟩

/-- One key makes one slice. -/
theorem ensures_fetchSome_single {store : Store} {key : Key}
    {Q : List Entry → Except Error (List Record) → σ → Prop} :
    (store.fetchSome l [key]).Ensures surface d s Q ↔
      Q ((surface.exchange (someQuery d l [key]) s).entries l)
        ((surface.exchange (someQuery d l [key]) s).records l)
        (surface.answer (someQuery d l [key]) s).2 := by
  rw [fetchSome, chunks_singleton, fetchChunks_cons, Action.ensures_bind, ensures_slice (by simp)]
  cases (surface.exchange (someQuery d l [key]) s).records l with
  | error e => exact .rfl
  | ok records =>
      simp only [Action.Then, fetchChunks, pure_bind]
      rw [Action.ensures_pure]
      simp

theorem filterMap_entries (l : Layout) (log : List Exchange) :
    (log.flatMap (Exchange.entries l)).filterMap Entry.exchange? = log := by
  induction log with
  | nil => rfl
  | cons x log ih =>
      have hone : (x.entries l).filterMap Entry.exchange? = [x] := by
        unfold Exchange.entries
        split <;> simp [Entry.exchange?, List.filterMap_map, Function.comp_def]
      rw [List.flatMap_cons, List.filterMap_append, hone, ih, List.singleton_append]

section

variable {store : Store} {typeName : String} {keys : List Key}

theorem ensures_getSome (htakes : Takes store.registry.get? l typeName keys) (hkeys : keys ≠ []) :
    (store.getSome typeName keys).Ensures surface d s fun log outcome _ ↦
      ∃ exchanges verdict, log = exchanges.flatMap (Exchange.entries l) ∧
        outcome = verdict.mapError (Error.during "get_some" typeName (.ids keys)) ∧
        Gathered d l (chunks store.options.maxInList keys) exchanges verdict := by
  rw [getSome_eq]
  refine ensures_taking (fun l' htakes' ↦ ?_) fun hnone ↦ absurd htakes (hnone l)
  obtain rfl := htakes.unique htakes'
  rw [if_neg hkeys, Action.ensures_during]
  refine (ensures_fetchChunks (fun slice h ↦ ne_nil_of_mem_chunks h) s).mono ?_
  rintro log outcome s' ⟨exchanges, rfl, hgathered⟩
  exact ⟨exchanges, outcome, rfl, rfl, hgathered⟩

variable {key : Key}

theorem ensures_getSome_single (htakes : Takes store.registry.get? l typeName [key]) :
    (store.getSome typeName [key]).Ensures surface d s fun log outcome s' ↦
      log = (surface.exchange (someQuery d l [key]) s).entries l ∧
        outcome = ((surface.exchange (someQuery d l [key]) s).records l).mapError
          (Error.during "get_some" typeName (.ids [key])) ∧
        s' = (surface.answer (someQuery d l [key]) s).2 := by
  rw [getSome_eq]
  refine ensures_taking (fun l' htakes' ↦ ?_) fun hnone ↦ absurd htakes (hnone l)
  obtain rfl := htakes.unique htakes'
  rw [if_neg (List.cons_ne_nil key []), Action.ensures_during, ensures_fetchSome_single]
  exact ⟨rfl, rfl, rfl⟩

theorem ensures_get (htakes : Takes store.registry.get? l typeName [key]) :
    (store.get typeName key).Ensures surface d s fun log outcome s' ↦
      log = (surface.exchange (someQuery d l [key]) s).entries l ∧
        outcome = (((surface.exchange (someQuery d l [key]) s).records l).map
          List.getLast?).mapError (Error.during "get" typeName (.one key)) ∧
        s' = (surface.answer (someQuery d l [key]) s).2 := by
  rw [get_eq]
  refine ensures_taking (fun l' htakes' ↦ ?_) fun hnone ↦ absurd htakes (hnone l)
  obtain rfl := htakes.unique htakes'
  rw [Action.ensures_bind, Action.ensures_during, ensures_fetchSome_single]
  cases (surface.exchange (someQuery d l [key]) s).records l with
  | error e => exact ⟨rfl, rfl, rfl⟩
  | ok records =>
      simp only [Except.mapError, Action.Then]
      rw [Action.ensures_pure]
      exact ⟨by simp, rfl, rfl⟩

end

end Store

open Store

variable {σ : Type}

/-- Whatever the surface answers, keys are read in as few slices as the store allows, one query for
each up to the first that fails, and the result is everything that is found or the first failure. A
row becomes the record that holds its converted cells, if it fits at all. Reading one key alone asks
the same, and the last record found counts. -/
theorem getSome_gathers (surface : Surface σ) (d : Dialect) {store : Store}
    (hstore : store.registry.Reachable) {l : Layout} {typeName : String} {keys : List Key}
    (htakes : Takes store.registry.get? l typeName keys) (hkeys : keys ≠ []) (s : σ) :
    let most := max store.options.maxInList 1
    let getSome (keys : List Key) :=
      (store.getSome typeName keys).run.run surface d store.registry s
    (∃ slices : List (List Key), slices.flatten = keys ∧
      slices.length = (keys.length + (most - 1)) / most ∧
      (∀ slice ∈ slices, 1 ≤ slice.length ∧ slice.length ≤ most) ∧
      ∃ log outcome, Gathered d l slices log outcome ∧
        surface.Conducts s log (getSome keys).state ∧
        (getSome keys).events = (log.flatMap (Exchange.entries l)).map Entry.event ∧
        (getSome keys).result
          = outcome.mapError (Error.during "get_some" typeName (.ids keys))) ∧
    (∀ row r, Record.ofRow l row = .ok r ↔ Record.Fills l row r) ∧
    (∀ row, Record.Misfit l row → ∃ e, Record.ofRow l row = .error e) ∧
    ∀ key, key.keyType = l.keyType →
      let x := surface.exchange (someQuery d l [key]) s
      let get := (store.get typeName key).run.run surface d store.registry s
      get.events = (x.entries l).map Entry.event ∧ (getSome [key]).events = get.events ∧
        (getSome [key]).state = get.state ∧
        (getSome [key]).result
          = (x.records l).mapError (Error.during "get_some" typeName (.ids [key])) ∧
        get.result
          = ((x.records l).map List.getLast?).mapError (Error.during "get" typeName (.one key)) := by
  intro most getSome
  have hsound : l.Sound := (hstore.sound.layouts htakes.registered).2
  refine ⟨⟨chunks store.options.maxInList keys, flatten_chunks _ _, length_chunks _ _, ?_, ?_⟩,
    fun row r ↦ Record.ofRow_eq_ok_iff_fills hsound, fun row ↦ Record.Misfit.exists_error, ?_⟩
  · intro slice hslice
    exact ⟨List.length_pos_iff.mpr (ne_nil_of_mem_chunks hslice), length_le_of_mem_chunks hslice⟩
  · obtain ⟨⟨log, hevents, hconducts, exchanges, verdict, rfl, hresult, hgathered⟩, -⟩ :=
      (ensures_getSome htakes hkeys).run hstore (within_getSome hstore typeName keys)
    rw [filterMap_entries] at hconducts
    exact ⟨exchanges, verdict, hgathered, hconducts, hevents, hresult⟩
  · intro key hkey x get
    have hone : Takes store.registry.get? l typeName [key] :=
      ⟨htakes.registered, by simpa using hkey⟩
    obtain ⟨⟨log, hevents, -, rfl, hresult, hstate⟩, -⟩ :=
      (ensures_getSome_single hone).run hstore (within_getSome hstore typeName [key])
    obtain ⟨⟨log, hevents', -, rfl, hresult', hstate'⟩, -⟩ :=
      (ensures_get hone).run hstore (within_get hstore typeName key)
    exact ⟨hevents', hevents.trans hevents'.symm, hstate.trans hstate'.symm, hresult, hresult'⟩

/-- Three notes are asked for two at a time. A row of the second answer has no key, so not even the
note of the first one is returned. Asked for alone that note is found. -/
theorem getSome_gathers_row_without_key :
    let t : RecordType := ⟨"Note", none, "id", .int, [⟨"getTitle", .text, false⟩]⟩
    let l : Layout := ⟨"Note", none, "id", .int, [("title", .text)]⟩
    let store : Store := ⟨(Registry.empty.register t).2, ⟨2⟩, false⟩
    let keys : List Key := [.int 1, .int 2, .int 3]
    let script : List ScriptReply :=
      [⟨none, [[.i32 1, .text "a"]], 0⟩, ⟨none, [[.null .i64, .text "b"]], 0⟩]
    let o := (store.getSome "Note" keys).run.run .script .sqlite store.registry script
    store.registry.Reachable ∧ Takes store.registry.get? l "Note" keys ∧ keys ≠ [] ∧
      (∃ (slices : List (List Key)) (log : List Exchange) (e : Error), slices.length = 2 ∧
        Gathered .sqlite l slices log (.error e) ∧
        o.result = .error (.storage "get_some" "Note" (.ids keys) e)) ∧
      ((store.get "Note" (.int 1)).run.run .script .sqlite store.registry script).result
        = .ok (some ⟨l, .int 1, [.text "a"]⟩) := by
  intro t l store keys script o
  have hstore : store.registry.Reachable := .register t .empty
  have hresolve : Layout.resolve ⟨"Note", none, "id", .int, [⟨"getTitle", .text, false⟩]⟩
      = .ok ⟨"Note", none, "id", .int, [("title", .text)]⟩ := rfl
  have htakes : Takes store.registry.get? l "Note" keys :=
    ⟨Registry.get?_register_self (t := t) rfl hresolve, by decide⟩
  have hkeys : keys ≠ [] := by decide
  obtain ⟨⟨slices, -, hlength, -, log, outcome, hgathered, -, -, hresult⟩, -, -, hone⟩ :=
    getSome_gathers .script .sqlite hstore htakes hkeys script
  have hfails : (o.result matches .error _) = true := by decide +kernel
  refine ⟨hstore, htakes, hkeys, ?_, ?_⟩
  · cases outcome with
    | ok found => simp [o, hresult, Except.mapError] at hfails
    | error e => exact ⟨slices, log, e, hlength.trans (by decide), hgathered, hresult⟩
  · obtain ⟨-, -, -, -, hget⟩ := hone (.int 1) rfl
    exact hget

end RecordStore
