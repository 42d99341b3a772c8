import RecordStore.Proofs.Drafts
import RecordStore.Proofs.Transaction

namespace RecordStore

open Sql (Command)
open Store (Admits batchCall batchPlan changedRows insertRow newRows updateRow)

/-!
# How a batch is split

The keys that the questions of a transaction bring back, and nothing else, decide which records of a
batch are inserted and which are updated. Whatever the surface answers, each record falls into one
of the two groups, and the rows that are sent are those of the groups in the order of the batch.
-/

/-! ## Batches that are sent -/

/-- The first part of two lists one after the other ends in the first or in the second. -/
theorem prefix_append_cases {α : Type} {xs front back : List α} (h : xs <+: front ++ back) :
    xs <+: front ∨ ∃ begun last, xs = front ++ (begun ++ [last]) ∧ begun ++ [last] <+: back := by
  rcases List.prefix_or_prefix_of_prefix h (List.prefix_append front back) with hwithin | hbeyond
  · exact .inl hwithin
  · obtain ⟨rest, rfl⟩ := hbeyond
    rw [List.prefix_append_right_inj] at h
    rcases List.eq_nil_or_concat rest with rfl | ⟨begun, last, rfl⟩
    · rw [List.append_nil]
      exact .inl List.prefix_rfl
    · rw [List.concat_eq_append] at h
      exact .inr ⟨begun, last, by rw [List.concat_eq_append], h⟩

def Call.batch? {k : ReplyKind} : Call String k → Option (String × List Row)
  | batchWrite _ sql rows => some (sql, rows)
  | query _ _ _ _ => none
  | write _ _ _ => none
  | openTransaction _ => none
  | commit => none
  | rollback => none

def Event.batch? : Event → Option (String × List Row)
  | call c => c.batch?
  | notice _ => none

/-- The first part of a plan that asks and then sends batches ends with a question, when nothing is
sent yet, or with the last of the batches that are sent. -/
theorem Event.batches_of_prefix {made asks writes : List Event} {last : Event}
    (h : made ++ [last] <+: asks ++ writes) (hasks : ∀ e ∈ asks, e.batch? = none)
    (hwrites : ∀ e ∈ writes, e.batch? ≠ none) :
    let sent := (made ++ [last]).filterMap batch?
    last.batch? = sent.getLast? ∧
      (sent = [] ∨ last.batch? ≠ none ∧ sent <+: writes.filterMap batch?) := by
  intro sent
  rcases prefix_append_cases h with hbefore | ⟨written, final, hmade, hwritten⟩
  · have hnone : ∀ e ∈ made ++ [last], e.batch? = none := fun e he ↦ hasks e (hbefore.subset he)
    have hnothing : sent = [] := List.filterMap_eq_nil_iff.mpr hnone
    rw [hnothing]
    exact ⟨hnone last (List.mem_append_right _ (List.mem_singleton_self last)), .inl rfl⟩
  · rw [← List.append_assoc] at hmade
    obtain ⟨rfl, hfinal⟩ := List.append_inj' hmade rfl
    obtain rfl := List.singleton_inj.mp hfinal
    have hbatch : last.batch? ≠ none :=
      hwrites last (hwritten.subset (List.mem_append_right _ (List.mem_singleton_self last)))
    have hsent : sent = (written ++ [last]).filterMap batch? := by
      have hquiet : asks.filterMap batch? = [] := List.filterMap_eq_nil_iff.mpr hasks
      simp only [sent]
      rw [List.append_assoc, List.filterMap_append, hquiet, List.nil_append]
    rw [hsent]
    refine ⟨?_, .inr ⟨hbatch, hwritten.filterMap _⟩⟩
    obtain ⟨batch, hsome⟩ := Option.ne_none_iff_exists'.mp hbatch
    rw [List.filterMap_append, List.filterMap_cons_some hsome, hsome]
    exact List.getLast?_concat.symm

/-- The keys in the cells of an answer. An integer is a key whatever its width. -/
def Exchange.returned : Exchange → List Key
  | @mk .rows _ reply => (reply.toOption.getD []).flatten.filterMap Key.ofValue?
  | @mk _ _ _ => []

theorem Store.keysOf_eq_ok {rows : List Row} {keys : List Key} (h : keysOf rows = .ok keys) :
    rows.flatten.filterMap Key.ofValue? = keys := by
  unfold keysOf at h
  have hall := forall₂_of_mapM h
  generalize rows.flatten = cells at hall
  clear h
  induction hall with
  | nil => rfl
  | cons hcell hrest ih =>
      rw [List.filterMap_cons_some (Key.ofValue_eq_ok.mp hcell), ih]

/-- An exchange without a failure reports the keys that its answer returns. -/
theorem Exchange.returned_of_verdict {x : Exchange} {keys : List Key} (h : x.verdict = .ok keys) :
    x.returned = keys := by
  obtain ⟨c, reply⟩ := x
  cases c with
  | query inTransaction sql params shape =>
      cases reply with
      | error e => cases h
      | ok rows => exact Store.keysOf_eq_ok h
  | write inTransaction sql params =>
      cases reply <;> cases h
      rfl
  | batchWrite inTransaction sql rows =>
      cases reply <;> cases h
      rfl
  | openTransaction isolation =>
      cases reply <;> cases h
      rfl
  | commit =>
      cases reply <;> cases h
      rfl
  | rollback =>
      cases reply <;> cases h
      rfl

theorem Exchange.reported_of_isOk {log : List Exchange}
    (h : ∀ x ∈ log, x.verdict.isOk = true) : reported log = log.flatMap Exchange.returned := by
  induction log with
  | nil => rfl
  | cons x log ih =>
      obtain ⟨hx, hlog⟩ := List.forall_mem_cons.mp h
      have hrest := ih hlog
      cases hverdict : x.verdict with
      | error e => simp [hverdict, Except.isOk, Except.toBool] at hx
      | ok keys =>
          simp only [reported, List.flatMap_cons, hverdict] at hrest ⊢
          rw [hrest, returned_of_verdict hverdict]
          rfl

/-- A batch brings back no keys, whether it fails or not. -/
theorem Exchange.returned_of_batch {x : Exchange} (h : x.event.batch? ≠ none) :
    x.returned = [] ∧ x.verdict.toOption.getD [] = [] := by
  obtain ⟨c, reply⟩ := x
  cases c with
  | batchWrite inTransaction sql rows => cases reply <;> exact ⟨rfl, rfl⟩
  | query inTransaction sql params shape => exact absurd rfl h
  | write inTransaction sql params => exact absurd rfl h
  | openTransaction isolation => exact absurd rfl h
  | commit => exact absurd rfl h
  | rollback => exact absurd rfl h

/-- Opening and closing a transaction neither returns keys nor sends batches. -/
theorem Exchange.between (log : List Exchange) (closing : Call String .done)
    (hclosing : closing.batch? = none) (reply : Except Error Unit) :
    let whole := [⟨.openTransaction .serializable, .ok ()⟩] ++ log ++ [⟨closing, reply⟩]
    whole.flatMap Exchange.returned = log.flatMap Exchange.returned ∧
      (whole.map Exchange.event).filterMap Event.batch?
        = (log.map Exchange.event).filterMap Event.batch? := by
  intro whole
  have hlast : [Exchange.event ⟨closing, reply⟩].filterMap Event.batch? = [] :=
    List.filterMap_cons_none hclosing
  constructor
  · simp only [whole, List.flatMap_append]
    exact List.append_nil _
  · simp only [whole, List.map_append, List.filterMap_append, List.map_singleton, hlast]
    exact List.append_nil _

namespace Store

/-- The rows of a batch with the text that they are sent with, if there are rows. -/
def batchOf (d : Dialect) (c : Command) (rows : List Row) : List (String × List Row) :=
  if rows = [] then [] else [(c.render d, rows)]

/-- The batches for records of which the given keys exist: the new records are inserted, and the
present ones updated if they have fields. -/
def batchesFor (d : Dialect) (l : Layout) (new present : List Record) :
    List (String × List Row) :=
  batchOf d (.insert l.table l.columns (l.fieldCount + 1)) (new.map insertRow)
    ++ if l.fields = [] then []
      else batchOf d (.update l.table l.fieldNames l.keyColumn) (present.map updateRow)

theorem filterMap_batchCall (d : Dialect) (c : Command) (rows : List Row) :
    (batchCall d c rows).filterMap Event.batch? = batchOf d c rows := by
  unfold batchCall batchOf
  split <;> rfl

/-- The plan of a batch asks first and then sends the batches. -/
theorem batchPlan_eq (d : Dialect) (l : Layout) (slices : List (List Key))
    (records : List Record) (existing : List Key) :
    ∃ asks writes : List Event, batchPlan d l slices records existing = asks ++ writes ∧
      (∀ e ∈ asks, e.batch? = none) ∧ (∀ e ∈ writes, e.batch? ≠ none) ∧
      writes.filterMap Event.batch? = batchesFor d l (records.filter (·.key ∉ existing))
        (records.filter (·.key ∈ existing)) := by
  have hcall (c : Command) (rows : List Row) : ∀ e ∈ batchCall d c rows, e.batch? ≠ none := by
    intro e he
    unfold batchCall at he
    split at he
    · cases he
    · rw [List.mem_singleton.mp he]
      exact Option.some_ne_none _
  rw [batchPlan, List.append_assoc]
  refine ⟨_, _, rfl, ?_, ?_, ?_⟩
  · intro e he
    obtain ⟨slice, -, rfl⟩ := List.mem_map.mp he
    rfl
  · intro e he
    rcases List.mem_append.mp he with he | he
    · exact hcall _ _ e he
    · exact hcall _ _ e he
  · rw [List.filterMap_append, filterMap_batchCall, filterMap_batchCall, batchesFor, newRows,
      changedRows]
    split <;> rfl

end Store

namespace Transacted

open Store (batchPlan_eq batchesFor)

variable {d : Dialect} {l : Layout} {slices : List (List Key)} {records : List Record}
  {log : List Exchange} {outcome : Except Error Unit}

/-- Of the batches for the keys that are returned a first part is sent. One is left out only when
the last one sent has failed, or a call that is not a batch. -/
theorem sent (h : Transacted (batchPlan d l slices records) log outcome) :
    let existing := log.flatMap Exchange.returned
    let batches := batchesFor d l (records.filter (·.key ∉ existing))
      (records.filter (·.key ∈ existing))
    let sent := (log.map Exchange.event).filterMap Event.batch?
    sent <+: batches ∧
      (sent = batches ∨ ∃ x ∈ log, x.verdict.isOk = false ∧ x.event.batch? = sent.getLast?) := by
  intro existing batches sent
  cases h with
  | unopened e => exact ⟨List.nil_prefix, .inr ⟨_, List.mem_singleton_self _, rfl, rfl⟩⟩
  | @committed middle _ hplan hok =>
      obtain ⟨asks, writes, heq, hasks, -, hbatches⟩ :=
        batchPlan_eq d l slices records (reported middle)
      obtain ⟨hreturned, hsent⟩ := Exchange.between middle .commit rfl outcome
      have hexisting : existing = reported middle :=
        hreturned.trans (Exchange.reported_of_isOk hok).symm
      have hall : sent = batches := by
        refine hsent.trans ?_
        rw [hplan, heq, List.filterMap_append, List.filterMap_eq_nil_iff.mpr hasks, hbatches,
          ← hexisting]
        rfl
      exact ⟨hall ▸ List.prefix_rfl, .inl hall⟩
  | @rolledBack middle last e reply hplan hok hlast =>
      obtain ⟨asks, writes, heq, hasks, hwrites, hbatches⟩ :=
        batchPlan_eq d l slices records (reported (middle ++ [last]))
      obtain ⟨hreturned, hsent⟩ :=
        Exchange.between (middle ++ [last]) .rollback rfl reply
      have hfailed : last.verdict.isOk = false := by
        rw [hlast]
        rfl
      have hmem : last ∈ [⟨.openTransaction .serializable, .ok ()⟩] ++ (middle ++ [last])
          ++ [⟨.rollback, reply⟩] := by simp
      have hmade : (middle ++ [last]).map Exchange.event
          = middle.map Exchange.event ++ [last.event] := by rw [List.map_append, List.map_singleton]
      rw [hmade, heq] at hplan
      obtain ⟨hends, hpart⟩ := Event.batches_of_prefix hplan hasks hwrites
      rw [← hmade, ← hsent] at hends hpart
      refine ⟨?_, .inr ⟨last, hmem, hfailed, hends⟩⟩
      rcases hpart with hnothing | ⟨hbatch, hpart⟩
      · have hnone : sent = [] := hnothing
        exact hnone ▸ List.nil_prefix
      · have hexisting : existing = reported (middle ++ [last]) := by
          obtain ⟨hnothing, hverdict⟩ := Exchange.returned_of_batch hbatch
          have hmiddle := Exchange.reported_of_isOk hok
          refine hreturned.trans ?_
          rw [List.flatMap_append, ← hmiddle]
          simp [reported, hnothing, hverdict]
        rw [hbatches, ← hexisting] at hpart
        exact hpart

/-- A transaction in which no call fails is committed. -/
theorem ok {plan : List Key → List Event} (h : Transacted plan log outcome)
    (hok : ∀ x ∈ log, x.verdict.isOk = true) : outcome = .ok () := by
  cases h with
  | unopened e => cases hok _ (List.mem_singleton_self _)
  | @committed middle _ hplan _ =>
      have hclosing := hok ⟨.commit, outcome⟩ (by simp)
      cases outcome with
      | ok _ => rfl
      | error e => cases hclosing
  | @rolledBack middle last e reply hplan _ hlast =>
      have hclosing := hok last (by simp)
      rw [hlast] at hclosing
      cases hclosing

end Transacted

/-! ## The run of a batch -/

theorem Program.run_bind_done {σ α β : Type} (surface : Surface σ) (d : Dialect) (p : Program α)
    (f : α → β) (r : Registry) (s : σ) :
    let o := p.run surface d r s
    (p.bind fun a ↦ done (f a)).run surface d r s
      = ⟨o.events, f o.result, o.registry, o.state⟩ := by
  induction p generalizing r s with
  | done a => rfl
  | notify n next ih => simp [run, ih]
  | call c next ih =>
      simp only [call_bind, run]
      split <;> simp [ih]

theorem Store.run_put {σ : Type} (surface : Surface σ) (d : Dialect) (store : Store) (r : Record)
    (s : σ) :
    let o := (store.putAll [some r]).run.run surface d store.registry s
    (store.put (some r)).run.run surface d store.registry s
      = ⟨o.events, o.result.map List.getLast?, o.registry, o.state⟩ := by
  have hput : (store.put (some r)).run
      = (store.putAll [some r]).run.bind fun stored ↦ .done (stored.map List.getLast?) := by
    refine congrArg (store.putAll [some r]).run.bind (funext fun stored ↦ ?_)
    cases stored <;> rfl
  rw [hput]
  exact Program.run_bind_done ..

theorem filterMap_batch?_notices (told : List Notice) :
    (told.map Event.notice).filterMap Event.batch? = [] := by
  rw [List.filterMap_eq_nil_iff]
  intro e he
  obtain ⟨notice, -, rfl⟩ := List.mem_map.mp he
  rfl

section

variable {σ : Type} (surface : Surface σ) (d : Dialect) {store : Store} {l : Layout}
  {entries : List (Option Record)}

/-- The batches of an accepted batch of records, read off the calls of its run. -/
theorem putAll_sent (hstore : store.registry.Reachable)
    (hadmits : Admits store.registry.get? l entries.reduceOption) (s : σ) :
    let records := entries.reduceOption
    let o := (store.putAll entries).run.run surface d store.registry s
    ∃ (log : List Exchange) (before after : List Notice), surface.Conducts s log o.state ∧
      o.events = before.map .notice ++ log.map Exchange.event ++ after.map .notice ∧
      let existing := log.flatMap Exchange.returned
      let batches := Store.batchesFor d l (records.filter (·.key ∉ existing))
        (records.filter (·.key ∈ existing))
      let sent := o.events.filterMap Event.batch?
      sent <+: batches ∧
      (sent = batches ∨ ∃ x ∈ log, x.verdict.isOk = false ∧ x.event.batch? = sent.getLast?) ∧
      ((∀ x ∈ log, x.verdict.isOk = true) → o.result = .ok records) := by
  intro records o
  by_cases hpresent : records = []
  · have hnothing : o = ⟨[], .ok [], store.registry, s⟩ := by
      have hput : store.putAll entries = pure [] := by
        unfold Store.putAll
        rw [show entries.reduceOption = [] from hpresent]
      simp only [o, hput]
      rfl
    rw [hnothing, hpresent]
    refine ⟨[], [], [], rfl, rfl, ?_⟩
    intro existing batches sent
    exact ⟨List.nil_prefix, .inl (by simp [sent, batches, Store.batchesFor, Store.batchOf]),
      fun _ ↦ rfl⟩
  · obtain ⟨slices, -, -, -, log, outcome, htransacted, hconducts, hevents, hresult⟩ :=
      putAll_transaction surface d hstore hadmits hpresent s
    refine ⟨log, _, _, hconducts, hevents, ?_⟩
    intro existing batches sent
    have hsent : sent = (log.map Exchange.event).filterMap Event.batch? := by
      simp only [sent, o]
      rw [hevents, List.filterMap_append, List.filterMap_append, filterMap_batch?_notices,
        filterMap_batch?_notices, List.nil_append, List.append_nil]
    rw [hsent]
    obtain ⟨hpart, hleft⟩ := htransacted.sent
    refine ⟨hpart, hleft, fun hok ↦ ?_⟩
    rw [show outcome = .ok () from htransacted.ok hok] at hresult
    exact hresult

/-- An accepted batch is split by the keys that the surface returns: the records without them make
up the insertion, the others the update, both in the order of the batch. The update comes after the
insertion, and when no call fails both are sent and the batch is returned as it was given. A single
record is stored as a batch of one. -/
theorem putAll_partition (hstore : store.registry.Reachable)
    (hadmits : Admits store.registry.get? l entries.reduceOption) (s : σ) :
    let records := entries.reduceOption
    let o := (store.putAll entries).run.run surface d store.registry s
    ∃ (log : List Exchange) (before after : List Notice), surface.Conducts s log o.state ∧
      o.events = before.map .notice ++ log.map Exchange.event ++ after.map .notice ∧
      let existing := log.flatMap Exchange.returned
      let new := records.filter (·.key ∉ existing)
      let present := records.filter (·.key ∈ existing)
      let batches := Store.batchesFor d l new present
      let sent := o.events.filterMap Event.batch?
      (new ++ present).Perm records ∧ (∀ r ∈ records, Xor (r ∈ new) (r ∈ present)) ∧
      sent <+: batches ∧
      (sent = batches ∨ ∃ x ∈ log, x.verdict.isOk = false ∧ x.event.batch? = sent.getLast?) ∧
      ((∀ x ∈ log, x.verdict.isOk = true) → sent = batches ∧ o.result = .ok records) ∧
      ∀ r, entries = [some r] →
        let p := (store.put (some r)).run.run surface d store.registry s
        p.events = o.events ∧ p.result = o.result.map List.getLast? ∧
          ((∀ x ∈ log, x.verdict.isOk = true) → p.result = .ok (some r)) := by
  intro records o
  obtain ⟨log, before, after, hconducts, hevents, hpart, hleft, hresult⟩ :=
    putAll_sent surface d hstore hadmits s
  refine ⟨log, before, after, hconducts, hevents, ?_⟩
  intro existing new present batches sent
  refine ⟨?_, ?_, hpart, hleft, ?_, ?_⟩
  · have hsplit := List.filter_append_perm (fun r : Record ↦ decide (r.key ∉ existing)) records
    simpa [new, present] using hsplit
  · intro r hr
    by_cases hkey : r.key ∈ existing
    · exact .inr ⟨List.mem_filter.mpr ⟨hr, by simpa using hkey⟩, by simp [new, hkey]⟩
    · exact .inl ⟨List.mem_filter.mpr ⟨hr, by simpa using hkey⟩, by simp [present, hkey]⟩
  · intro hok
    refine ⟨?_, hresult hok⟩
    rcases hleft with hall | ⟨x, hx, hfailed, -⟩
    · exact hall
    · rw [hok x hx] at hfailed
      cases hfailed
  · rintro r rfl
    intro p
    have hput : p = ⟨o.events, o.result.map List.getLast?, o.registry, o.state⟩ :=
      Store.run_put surface d store r s
    rw [hput]
    refine ⟨rfl, rfl, fun hok ↦ ?_⟩
    rw [show o.result = .ok [r] from hresult hok]
    rfl

end

/-- Three notes are asked for in two questions. The answers hold a narrow integer, a key that nobody
asked for and a key that is repeated. -/
theorem putAll_partition_notes :
    let t : RecordType := ⟨"Note", none, "id", .int, [⟨"getTitle", .text, false⟩]⟩
    let l : Layout := ⟨"Note", none, "id", .int, [("title", .text)]⟩
    let store : Store := ⟨(Registry.empty.register t).2, ⟨2⟩, false⟩
    let records : List Record := [⟨l, .int 1, [.text "a"]⟩, ⟨l, .int 2, [.text "b"]⟩,
      ⟨l, .int 3, [.text "c"]⟩]
    let entries := records.map some
    let script : List ScriptReply := [.silent, ⟨none, [[.i32 2, .i64 9]], 0⟩,
      ⟨none, [[.i64 2], [.i64 2]], 0⟩]
    let o := (store.putAll entries).run.run .script .sqlite store.registry script
    store.registry.Reachable ∧ Admits store.registry.get? l entries.reduceOption ∧
      o.result.toOption = some records ∧
      ∃ log : List Exchange, Surface.script.Conducts script log o.state ∧
        let existing := log.flatMap Exchange.returned
        o.events.filterMap Event.batch? <+: Store.batchesFor .sqlite l
          (records.filter (·.key ∉ existing)) (records.filter (·.key ∈ existing)) ∧
        (o.events.filterMap Event.batch?).map Prod.snd =
          [[[.i64 1, .text "a"], [.i64 3, .text "c"]], [[.text "b", .i64 2]]] := by
  intro t l store records entries script o
  have hstore : store.registry.Reachable := .register t .empty
  have hresolve : Layout.resolve t = .ok l := by decide +kernel
  have hadmits : Admits store.registry.get? l entries.reduceOption :=
    ⟨Registry.get?_register_self (t := t) rfl hresolve, by decide, by decide⟩
  obtain ⟨log, before, after, hconducts, hevents, -, -, hpart, -⟩ :=
    putAll_partition .script .sqlite hstore hadmits script
  exact ⟨hstore, hadmits, by decide +kernel, log, hconducts, hpart, by decide +kernel⟩

end RecordStore
