import Mathlib.Logic.Relation
import RecordStore.Proofs.KeyedMap
import RecordStore.Proofs.Partition
import RecordStore.Proofs.Sqlite.Decoding

namespace RecordStore

open Store (batchesFor insertRow materialize fetchChunks updateRow)

/-!
# Keys of the right type

A key comes into a record by two doors. One checks it against the key type of the layout: that is
where drafts are started. The other takes it from the first cell of a row, whatever key the cell
holds, so a record that is read has a key of the right type only if the row had one. On a surface
that decodes rows into the shape they are asked for in, every key stays of the right type through
every history.
-/

def Record.Keyed (r : Record) : Prop :=
  r.key.keyType = r.layout.keyType

def Draft.Keyed (d : Draft) : Prop :=
  d.key.keyType = d.layout.keyType

/-! ## Drafts -/

namespace Draft

variable {d d' : Draft}

theorem Keyed.set {field : String} {v : Value} (h : d.Keyed) (hset : d.set field v = .ok d') :
    d'.Keyed := by
  obtain ⟨values, rfl⟩ := set_eq_ok hset
  exact h

theorem Keyed.setAll {settings : List (String × Value)} (h : d.Keyed)
    (hset : d.setAll settings = .ok d') : d'.Keyed := by
  induction settings generalizing d with
  | nil =>
      obtain rfl : d = d' := Except.ok.inj hset
      exact h
  | cons setting settings ih =>
      obtain ⟨next, hnext, hrest⟩ := bind_eq_ok.mp hset
      exact ih (h.set hnext) hrest

theorem Keyed.build {r : Record} (h : d.Keyed) (hbuild : d.build = .ok (r, d')) :
    r.Keyed ∧ d'.Keyed := by
  obtain ⟨rfl, rfl⟩ := build_eq_ok hbuild
  exact ⟨h, h⟩

theorem Keyed.after_set (h : d.Keyed) (field : String) (v : Value) :
    ((Drafting.set field v).after d).Keyed := by
  rcases Drafting.after_cases (Drafting.run_set field v d) with hsame | ⟨_, hchanged⟩
  · rwa [hsame]
  · obtain ⟨d', hset, heq⟩ := map_eq_ok.mp hchanged
    cases heq
    exact h.set hset

theorem Keyed.after_call (h : d.Keyed) (setter : String) (v : Value) :
    ((Drafting.call setter v).after d).Keyed := by
  rcases Drafting.after_cases (Drafting.run_call setter v d) with hsame | ⟨_, hchanged⟩
  · rwa [hsame]
  · obtain ⟨d', hcall, heq⟩ := map_eq_ok.mp hchanged
    cases heq
    obtain ⟨field, hset⟩ := call_eq_ok hcall
    exact h.set hset

end Draft

/-- A new draft has passed the check of its key. -/
theorem Registry.keyed_newDraft {registry : Registry} {typeName : String} {key : Key} {d : Draft}
    (h : registry.newDraft typeName key = .ok d) : d.Keyed := by
  obtain ⟨l, -, h⟩ := bind_eq_ok.mp h
  obtain ⟨_, hcheck, h⟩ := bind_eq_ok.mp h
  obtain rfl : Draft.empty l key = d := Except.ok.inj h
  exact Store.checkKey_eq_ok.mp (Error.ofArgument_eq_ok.mp hcheck)

theorem Record.keyed_template {r : Record} {key : Key} {d : Draft} (h : r.template key = .ok d) :
    d.Keyed := by
  obtain ⟨_, hcheck, h⟩ := bind_eq_ok.mp h
  obtain rfl : ⟨r.layout, key, r.values, false⟩ = d := Except.ok.inj h
  exact Store.checkKey_eq_ok.mp (Error.ofArgument_eq_ok.mp hcheck)

/-! ## Rows -/

/-- A key has the type of the cell it is taken from, or comes from a narrow integer. -/
theorem Key.fieldType_of_ofValue? {v : Value} {key : Key} (h : ofValue? v = some key) :
    v.fieldType = key.keyType.fieldType ∨ v.fieldType = .i32 ∧ key.keyType = .int := by
  cases v <;> cases h
  · exact .inr ⟨rfl, rfl⟩
  · exact .inl rfl
  · exact .inl rfl
  · exact .inl rfl

theorem Key.keyType_of_ofValue? {v : Value} {key : Key} {t : KeyType}
    (h : ofValue? v = some key) (ht : v.fieldType = t.fieldType) : key.keyType = t := by
  rcases fieldType_of_ofValue? h with hsame | ⟨hnarrow, -⟩
  · rw [ht] at hsame
    cases t <;> cases hkey : key.keyType <;> rw [hkey] at hsame <;> first | rfl | cases hsame
  · rw [ht] at hnarrow
    cases t <;> cases hnarrow

/-- The key of a record that is made of a row is the key in the first cell of the row. -/
theorem Record.key_of_ofRow {l : Layout} {row : Row} {r : Record} (h : ofRow l row = .ok r) :
    row.head?.bind Key.ofValue? = some r.key :=
  (ofRow_eq_ok.mp h).2.2.1

/-- A record that is made of a row is keyed exactly if the first cell of the row is of the type that
keys have in a row, or a narrow integer in place of a wide one. -/
theorem Record.keyed_iff_of_ofRow {l : Layout} {row : Row} {r : Record}
    (h : ofRow l row = .ok r) : r.Keyed ↔ ∃ v ∈ row.head?,
      v.fieldType = l.keyType.fieldType ∨ v.fieldType = .i32 ∧ l.keyType = .int := by
  obtain ⟨v, hv, hvalue⟩ := Option.bind_eq_some_iff.mp (key_of_ofRow h)
  rw [Record.Keyed, layout_of_ofRow h]
  constructor
  · intro hkeyed
    rw [← hkeyed]
    exact ⟨v, hv, Key.fieldType_of_ofValue? hvalue⟩
  · rintro ⟨w, hw, htype⟩
    obtain rfl : v = w := Option.some.inj (hv.symm.trans hw)
    rcases htype with htype | ⟨hnarrow, hint⟩
    · exact Key.keyType_of_ofValue? hvalue htype
    · rcases Key.fieldType_of_ofValue? hvalue with hsame | ⟨-, hkey⟩
      · rw [hnarrow] at hsame
        cases hkey : r.key.keyType <;> rw [hkey] at hsame <;> cases hsame
      · rw [hkey, hint]

theorem Record.keyed_of_ofRow {l : Layout} {row : Row} {r : Record} (h : ofRow l row = .ok r)
    (hshape : row.map Value.fieldType = l.rowShape) : r.Keyed := by
  obtain ⟨v, hv, -⟩ := Option.bind_eq_some_iff.mp (key_of_ofRow h)
  obtain ⟨rest, rfl⟩ := List.head?_eq_some_iff.mp hv
  exact (keyed_iff_of_ofRow h).mpr ⟨v, rfl, .inl (List.cons_eq_cons.mp hshape).1⟩

/-! ## Reading -/

section

variable {σ : Type} {surface : Surface σ} {d : Dialect} {s : σ} {l : Layout}

/-- The record is made of a row that a query for full rows of the layout has been answered with. -/
def Record.ReadIn (l : Layout) (log : List Exchange) (r : Record) : Prop :=
  ∃ inTransaction sql params rows,
    (⟨.query inTransaction sql params l.rowShape, .ok rows⟩ : Exchange) ∈ log ∧
      ∃ row ∈ rows, Record.ofRow l row = .ok r

theorem Record.ReadIn.mono {log log' : List Exchange} {r : Record} (h : r.ReadIn l log)
    (hlog : log ⊆ log') : r.ReadIn l log' := by
  obtain ⟨inTransaction, sql, params, rows, hquery, hrow⟩ := h
  exact ⟨inTransaction, sql, params, rows, hlog hquery, hrow⟩

/-- Whatever the action returns satisfies `P`, with the calls it has made. -/
def Action.Returns {α : Type} (surface : Surface σ) (d : Dialect) (a : Action α)
    (P : List Exchange → α → Prop) : Prop :=
  ∀ s, a.Ensures surface d s fun log outcome _ ↦
    ∀ x, outcome = .ok x → P (log.filterMap Entry.exchange?) x

namespace Action

variable {α β : Type} {a : Action α} {P : List Exchange → α → Prop}

theorem returns_pure {x : α} (h : P [] x) : (pure x : Action α).Returns surface d P := by
  intro s
  rw [ensures_pure]
  rintro _ ⟨⟩
  exact h

theorem Returns.bind {f : α → Action β} {Q : List Exchange → β → Prop}
    (ha : a.Returns surface d P)
    (hf : ∀ log x, P log x → (f x).Returns surface d fun log' ↦ Q (log ++ log')) :
    (a >>= f).Returns surface d Q := by
  intro s
  rw [ensures_bind]
  refine (ha s).mono fun log outcome s' hlog ↦ ?_
  cases outcome with
  | error e => exact nofun
  | ok x =>
      simp only [Then]
      refine (hf _ x (hlog x rfl) s').mono fun log' outcome' _ hrest y hy ↦ ?_
      rw [List.filterMap_append]
      exact hrest y hy

theorem Returns.mono {Q : List Exchange → α → Prop} (ha : a.Returns surface d P)
    (h : ∀ log x, P log x → Q log x) : a.Returns surface d Q :=
  fun s ↦ (ha s).mono fun _ _ _ hlog x hx ↦ h _ x (hlog x hx)

theorem returns_any (a : Action α) : a.Returns surface d fun _ _ ↦ True :=
  fun _ _ _ ↦ trivial

/-- An action that is only carried out for its effect. -/
theorem returns_then {f : α → Action β} {Q : List Exchange → β → Prop}
    (hf : ∀ log x, (f x).Returns surface d fun log' ↦ Q (log ++ log')) :
    (a >>= f).Returns surface d Q :=
  (returns_any a).bind fun log x _ ↦ hf log x

theorem Returns.during {operation typeName : String} {subject : Subject}
    (ha : a.Returns surface d P) : (a.during operation typeName subject).Returns surface d P := by
  intro s
  rw [ensures_during]
  refine (ha s).mono fun log outcome _ hlog x hx ↦ ?_
  cases outcome with
  | error e => cases hx
  | ok y => exact hlog x hx

theorem Returns.map {Q : List Exchange → β → Prop} {f : α → β} (ha : a.Returns surface d P)
    (h : ∀ log x, P log x → Q log (f x)) : (f <$> a).Returns surface d Q := by
  intro s
  rw [ensures_map]
  refine (ha s).mono fun log outcome _ hlog y hy ↦ ?_
  obtain ⟨x, rfl, rfl⟩ := map_eq_ok.mp hy
  exact h _ x (hlog x rfl)

theorem returns_query (inTransaction : Bool) (request : Request) (params : List Value)
    (shape : List FieldType) :
    (perform (.query inTransaction request params shape)).Returns surface d fun log rows ↦
      ∃ sql, (⟨.query inTransaction sql params shape, .ok rows⟩ : Exchange) ∈ log := by
  intro s
  cases htext : request.layout.text d request.statement request.count with
  | error fault =>
      have hspelled : (Call.query inTransaction request params shape).inDialect d
          = .error (.illegalArgument fault) := by
        simp [Call.inDialect, htext, Except.map, Error.ofArgument]
      simp only [Ensures, perform, ExceptT.run_mk, Program.play, hspelled]
      rintro _ ⟨⟩
  | ok sql =>
      have hspelled : (Call.query inTransaction request params shape).inDialect d
          = .ok (.query inTransaction (sql.getD "") params shape) := by
        simp [Call.inDialect, htext, Except.map, Error.ofArgument]
      rw [ensures_perform hspelled]
      intro rows hrows
      exact ⟨sql.getD "", by simp [Entry.exchange?, hrows]⟩

end Action

/-- The records that an answer holds. -/
def Reply.found : Reply → List Record
  | record found => found.toList
  | records found => found
  | count _ => []
  | truth _ => []

namespace Store

variable {store : Store} {typeName : String}

theorem returns_materialize (l : Layout) (rows : List Row) :
    (materialize l rows).Returns surface d fun _ found ↦
      ∀ r ∈ found, ∃ row ∈ rows, Record.ofRow l row = .ok r := by
  intro s
  rw [ensures_materialize]
  exact fun found hfound r hr ↦ exists_of_forall₂ (mapM_eq_ok.mp hfound) hr

theorem returns_read (l : Layout) (request : Request) (params : List Value) :
    (do
      let rows ← Action.perform (.query false request params l.rowShape)
      materialize l rows).Returns surface d fun log found ↦ ∀ r ∈ found, r.ReadIn l log := by
  refine (Action.returns_query false request params l.rowShape).bind fun log rows hrows ↦ ?_
  refine (returns_materialize l rows).mono fun log' found hfound r hr ↦ ?_
  obtain ⟨sql, hquery⟩ := hrows
  exact ⟨false, sql, params, rows, List.mem_append_left _ hquery, hfound r hr⟩

theorem returns_fetchChunks (l : Layout) (slices : List (List Key)) :
    (fetchChunks l slices).Returns surface d fun log found ↦ ∀ r ∈ found, r.ReadIn l log := by
  induction slices with
  | nil => exact Action.returns_pure nofun
  | cons slice slices ih =>
      rw [fetchChunks_cons]
      refine (returns_read l _ _).bind fun log found hfound ↦ ?_
      refine ih.bind fun log' rest hrest ↦ Action.returns_pure fun r hr ↦ ?_
      rcases List.mem_append.mp hr with hr | hr
      · exact (hfound r hr).mono (List.subset_append_left _ _)
      · exact (hrest r hr).mono (by simp)

theorem returns_taking {α : Type} {operation : String} {keys : List Key} {f : Layout → Action α}
    {P : List Exchange → α → Prop}
    (hf : ∀ l, store.registry.get? typeName = some l → (f l).Returns surface d P) :
    (store.taking typeName operation keys f).Returns surface d P := by
  intro s
  refine ensures_taking (fun l htakes ↦ hf l htakes.registered s) fun _ fault ↦ nofun

theorem returns_putAll (store : Store) (entries : List (Option Record)) :
    (store.putAll entries).Returns surface d fun _ found ↦ found = entries.reduceOption := by
  unfold putAll
  cases entries.reduceOption with
  | nil => exact Action.returns_pure rfl
  | cons first rest =>
      refine Action.returns_then fun _ l ↦ Action.returns_then fun _ _ ↦ ?_
      refine Action.returns_then fun _ _ ↦ Action.returns_then fun _ _ ↦ ?_
      exact Action.returns_then fun _ _ ↦ Action.returns_pure rfl

theorem returns_put (store : Store) (entry : Option Record) :
    (store.put entry).Returns surface d fun _ found ↦ found = entry := by
  cases entry with
  | none => exact Action.returns_pure rfl
  | some r =>
      refine (returns_putAll store [some r]).bind ?_
      rintro _ _ rfl
      exact Action.returns_pure rfl

/-- What is read under whatever layout is taken is read under the one that the name stands for. -/
theorem returns_taking_read {α : Type} {operation : String} {keys : List Key}
    {f : Layout → Action α} {found : α → List Record}
    (hf : ∀ l, (f l).Returns surface d fun log x ↦ ∀ r ∈ found x, r.ReadIn l log) :
    (store.taking typeName operation keys f).Returns surface d fun log x ↦
      ∀ r ∈ found x, ∃ l, store.registry.get? typeName = some l ∧ r.ReadIn l log :=
  returns_taking fun l hl ↦ (hf l).mono fun _ _ hfound r hr ↦ ⟨l, hl, hfound r hr⟩

theorem returns_get (key : Key) : (store.get typeName key).Returns surface d fun log found ↦
    ∀ r ∈ found.toList, ∃ l, store.registry.get? typeName = some l ∧ r.ReadIn l log := by
  rw [get_eq]
  refine returns_taking_read fun l ↦ ?_
  refine (returns_fetchChunks l _).during.bind fun log found hfound ↦ ?_
  refine Action.returns_pure fun r hr ↦ ?_
  rw [List.append_nil]
  exact hfound r (List.mem_of_mem_getLast? (Option.mem_toList.mp hr))

theorem returns_getSome (keys : List Key) :
    (store.getSome typeName keys).Returns surface d fun log found ↦
      ∀ r ∈ found, ∃ l, store.registry.get? typeName = some l ∧ r.ReadIn l log := by
  rw [getSome_eq]
  refine returns_taking_read fun l ↦ ?_
  split
  · exact Action.returns_pure nofun
  · exact (returns_fetchChunks l _).during

theorem returns_getAll : (store.getAll typeName).Returns surface d fun log found ↦
    ∀ r ∈ found, ∃ l, store.registry.get? typeName = some l ∧ r.ReadIn l log := by
  rw [getAll_eq]
  exact returns_taking_read fun l ↦ (returns_read l _ _).during

/-- The records in an answer have been given to the operation or are made of rows that the surface
has answered with, under the layout that the operation is for. -/
theorem returns_operate (store : Store) (op : Operation) :
    (store.operate op).Returns surface d fun log reply ↦ ∀ r ∈ reply.found,
      r ∈ op.given ∨ ∃ l, op.IsFor store.registry.get? l ∧ r.ReadIn l log := by
  -- reading operations name their type and store nothing
  have hread {typeName : String} {op : Operation} (hnames : op.typeNames = [typeName])
      (hstored : op.stored = []) {log : List Exchange} {r : Record}
      (hfound : ∃ l, store.registry.get? typeName = some l ∧ r.ReadIn l log) :
      r ∈ op.given ∨ ∃ l, op.IsFor store.registry.get? l ∧ r.ReadIn l log := by
    obtain ⟨l, hl, hr⟩ := hfound
    exact .inr ⟨l, Operation.isFor_of_name hnames hstored hl, hr⟩
  cases op with
  | put entry =>
      refine (returns_put store entry).map ?_
      rintro _ _ rfl r hr
      exact .inl hr
  | putAll entries =>
      refine (returns_putAll store entries).map ?_
      rintro _ _ rfl r hr
      exact .inl hr
  | get typeName key =>
      exact (returns_get key).map fun log found hfound r hr ↦ hread rfl rfl (hfound r hr)
  | getSome typeName keys =>
      exact (returns_getSome keys).map fun log found hfound r hr ↦ hread rfl rfl (hfound r hr)
  | getAll typeName =>
      exact returns_getAll.map fun log found hfound r hr ↦ hread rfl rfl (hfound r hr)
  | remove typeName keys => exact (Action.returns_any _).map fun _ _ _ ↦ nofun
  | removeRecords entries => exact (Action.returns_any _).map fun _ _ _ ↦ nofun
  | removeAll typeName => exact (Action.returns_any _).map fun _ _ _ ↦ nofun
  | getSize typeName => exact (Action.returns_any _).map fun _ _ _ ↦ nofun
  | contains typeName key => exact (Action.returns_any _).map fun _ _ _ ↦ nofun
  | containsRecord entry => exact (Action.returns_any _).map fun _ _ _ ↦ nofun

end Store

/-! ## Surfaces that keep to the shape -/

/-- Every row of an answer has the shape that is asked for. -/
def Surface.Shaped (surface : Surface σ) : Prop :=
  ∀ inTransaction sql params shape s rows,
    (surface.answer (.query inTransaction sql params shape) s).1 = .ok rows →
    ∀ row ∈ rows, row.map Value.fieldType = shape

theorem Surface.Conducts.answered {s' : σ} {log : List Exchange}
    (h : surface.Conducts s log s') {x : Exchange} (hx : x ∈ log) :
    ∃ s, x.reply = (surface.answer x.call s).1 := by
  induction log generalizing s with
  | nil => cases hx
  | cons first log ih =>
      obtain ⟨hreply, hrest⟩ := h
      rcases List.mem_cons.mp hx with rfl | hx
      · exact ⟨s, hreply⟩
      · exact ih hrest hx

theorem Record.ReadIn.keyed {s' : σ} {log : List Exchange} {r : Record} (h : r.ReadIn l log)
    (hshaped : surface.Shaped) (hconducts : surface.Conducts s log s') : r.Keyed := by
  obtain ⟨inTransaction, sql, params, rows, hquery, row, hrow, hread⟩ := h
  obtain ⟨s, hreply⟩ := hconducts.answered hquery
  exact Record.keyed_of_ofRow hread (hshaped _ _ _ _ s rows hreply.symm row hrow)

/-! ## Histories -/

/-- What a client holds that works with stores over one surface. -/
structure Holding (σ : Type) where
  drafts : List Draft
  records : List Record
  state : σ

namespace Holding

def Keyed (h : Holding σ) : Prop :=
  (∀ d ∈ h.drafts, d.Keyed) ∧ ∀ r ∈ h.records, r.Keyed

def start (s : σ) : Holding σ :=
  ⟨[], [], s⟩

variable (surface d) in
/-- One thing that a client can do with what it holds: start drafts in any registry or from a
record, change and build a draft, look at a record through a view, and carry out an operation of any
store with records that it holds. What it had before it keeps, so drafts can be used again. -/
inductive Step (h : Holding σ) : Holding σ → Prop
  | newDraft {registry : Registry} {typeName : String} {key : Key} {draft : Draft} :
    registry.newDraft typeName key = .ok draft → Step h { h with drafts := draft :: h.drafts }
  | newDraftWith {registry : Registry} {typeName : String} {key : Key}
    {settings : List (String × Value)} {draft : Draft} :
    registry.newDraftWith typeName key settings = .ok draft →
    Step h { h with drafts := draft :: h.drafts }
  | newDrafts {registry : Registry} {typeName : String} {keys : List Key} {drafts : List Draft} :
    registry.newDrafts typeName keys = .ok drafts → Step h { h with drafts := drafts ++ h.drafts }
  | template {r : Record} {key : Key} {draft : Draft} : r ∈ h.records →
    r.template key = .ok draft → Step h { h with drafts := draft :: h.drafts }
  | templates {r : Record} {keys : List Key} {drafts : List Draft} : r ∈ h.records →
    r.templates keys = .ok drafts → Step h { h with drafts := drafts ++ h.drafts }
  | modify {r : Record} : r ∈ h.records → Step h { h with drafts := r.modify :: h.drafts }
  | set {draft : Draft} (field : String) (v : Value) : draft ∈ h.drafts →
    Step h { h with drafts := (Drafting.set field v).after draft :: h.drafts }
  | call {draft : Draft} (setter : String) (v : Value) : draft ∈ h.drafts →
    Step h { h with drafts := (Drafting.call setter v).after draft :: h.drafts }
  | build {draft draft' : Draft} {r : Record} : draft ∈ h.drafts →
    Drafting.build.run draft = .ok r draft' →
    Step h { h with drafts := draft' :: h.drafts, records := r :: h.records }
  | view {r r' : Record} (v : View) : r ∈ h.records → r.viewAs v = .ok r' →
    Step h { h with records := r' :: h.records }
  | operate {store : Store} {op : Operation} {o : Outcome σ (Except Error Reply)} :
    store.registry.Reachable → (∀ r ∈ op.given, r ∈ h.records) →
    (store.operate op).run.run surface d store.registry h.state = o →
    Step h { h with
      records := (o.result.toOption.map Reply.found).getD [] ++ h.records, state := o.state }

theorem Keyed.with_draft {h : Holding σ} (hkeyed : h.Keyed) {draft : Draft} (hdraft : draft.Keyed) :
    Keyed { h with drafts := draft :: h.drafts } :=
  ⟨List.forall_mem_cons.mpr ⟨hdraft, hkeyed.1⟩, hkeyed.2⟩

theorem Keyed.with_drafts {h : Holding σ} (hkeyed : h.Keyed) {drafts : List Draft}
    (hdrafts : ∀ draft ∈ drafts, draft.Keyed) : Keyed { h with drafts := drafts ++ h.drafts } :=
  ⟨List.forall_mem_append.mpr ⟨hdrafts, hkeyed.1⟩, hkeyed.2⟩

end Holding

/-! ## What is kept -/

/-- The records in an answer, traced back through the calls of the run. -/
theorem operate_found (surface : Surface σ) (d : Dialect) {store : Store}
    (hstore : store.registry.Reachable) (op : Operation) (s : σ) :
    let o := (store.operate op).run.run surface d store.registry s
    ∃ log : List Entry, o.events = log.map Entry.event ∧
      surface.Conducts s (log.filterMap Entry.exchange?) o.state ∧
      ∀ reply, o.result = .ok reply → ∀ r ∈ reply.found, r ∈ op.given ∨
        ∃ l, store.registry.get? l.typeName = some l ∧
          r.ReadIn l (log.filterMap Entry.exchange?) := by
  intro o
  have hreturns : (store.operate op).Ensures surface d s _ := Store.returns_operate store op s
  obtain ⟨⟨log, hevents, hconducts, hfound⟩, -, -⟩ :=
    hreturns.run hstore (Store.within_operate hstore op)
  refine ⟨log, hevents, hconducts, fun reply hreply r hr ↦ ?_⟩
  refine (hfound reply hreply r hr).imp_right ?_
  rintro ⟨l, hfor, hread⟩
  exact ⟨l, (hfor.of_reachable hstore).1, hread⟩

theorem Holding.Step.keyed {h h' : Holding σ} (hstep : Step surface d h h')
    (hshaped : surface.Shaped) (hkeyed : h.Keyed) : h'.Keyed := by
  cases hstep with
  | newDraft hdraft => exact hkeyed.with_draft (Registry.keyed_newDraft hdraft)
  | newDraftWith hdraft =>
      obtain ⟨start, hstart, hset⟩ := bind_eq_ok.mp hdraft
      exact hkeyed.with_draft ((Registry.keyed_newDraft hstart).setAll hset)
  | newDrafts hdrafts =>
      refine hkeyed.with_drafts fun draft hdraft ↦ ?_
      obtain ⟨key, hkey⟩ := exists_of_mapM_eq_ok hdrafts hdraft
      exact Registry.keyed_newDraft hkey
  | template _ hdraft => exact hkeyed.with_draft (Record.keyed_template hdraft)
  | templates _ hdrafts =>
      refine hkeyed.with_drafts fun draft hdraft ↦ ?_
      obtain ⟨key, hkey⟩ := exists_of_mapM_eq_ok hdrafts hdraft
      exact Record.keyed_template hkey
  | modify hr => exact hkeyed.with_draft (hkeyed.2 _ hr)
  | set field v hdraft => exact hkeyed.with_draft ((hkeyed.1 _ hdraft).after_set field v)
  | call setter v hdraft => exact hkeyed.with_draft ((hkeyed.1 _ hdraft).after_call setter v)
  | build hdraft hbuild =>
      rw [Drafting.run_build, Drafting.inPlace_eq_ok] at hbuild
      obtain ⟨hr, hdraft'⟩ := (hkeyed.1 _ hdraft).build hbuild
      exact ⟨List.forall_mem_cons.mpr ⟨hdraft', hkeyed.1⟩,
        List.forall_mem_cons.mpr ⟨hr, hkeyed.2⟩⟩
  | view v hr hview =>
      refine ⟨hkeyed.1, List.forall_mem_cons.mpr ⟨?_, hkeyed.2⟩⟩
      unfold Record.viewAs at hview
      split at hview
      · cases hview
        exact hkeyed.2 _ hr
      · cases hview
  | @operate store op o hstore hgiven ho =>
      refine ⟨hkeyed.1, List.forall_mem_append.mpr ⟨?_, hkeyed.2⟩⟩
      obtain ⟨log, -, hconducts, hfound⟩ := operate_found surface d hstore op h.state
      rw [ho] at hconducts hfound
      cases hresult : o.result with
      | error e => exact nofun
      | ok reply =>
          intro r hr
          rcases hfound reply hresult r hr with hgave | ⟨l, -, hread⟩
          · exact hkeyed.2 r (hgiven r hgave)
          · exact hread.keyed hshaped hconducts

theorem Holding.keyed_of_history {h h' : Holding σ}
    (hrun : Relation.ReflTransGen (Step surface d) h h') (hshaped : surface.Shaped)
    (hkeyed : h.Keyed) : h'.Keyed := by
  induction hrun with
  | refl => exact hkeyed
  | tail _ hstep ih => exact hstep.keyed hshaped ih

/-- Every row of a batch is the row of one of its records. -/
theorem Store.rows_of_batchesFor {new present : List Record} {batch : String × List Row}
    (hbatch : batch ∈ batchesFor d l new present) {row : Row} (hrow : row ∈ batch.2) :
    ∃ r ∈ new ++ present, row = insertRow r ∨ row = updateRow r := by
  have hof {c : Sql.Command} {rows : List Row} (h : batch ∈ batchOf d c rows) : row ∈ rows := by
    unfold batchOf at h
    split at h
    · cases h
    · obtain rfl := List.mem_singleton.mp h
      exact hrow
  rcases List.mem_append.mp hbatch with hbatch | hbatch
  · obtain ⟨r, hr, rfl⟩ := List.mem_map.mp (hof hbatch)
    exact ⟨r, List.mem_append_left _ hr, .inl rfl⟩
  · split at hbatch
    · cases hbatch
    · obtain ⟨r, hr, rfl⟩ := List.mem_map.mp (hof hbatch)
      exact ⟨r, List.mem_append_right _ hr, .inr rfl⟩

/-- Storing records, whether they are accepted or not, writes no rows but theirs. -/
theorem putAll_rows (surface : Surface σ) (d : Dialect) {store : Store}
    (hstore : store.registry.Reachable) (entries : List (Option Record)) (s : σ) :
    let o := (store.putAll entries).run.run surface d store.registry s
    ∀ batch ∈ o.events.filterMap Event.batch?, ∀ row ∈ batch.2,
      ∃ r ∈ entries.reduceOption, row = insertRow r ∨ row = updateRow r := by
  intro o batch hbatch row hrow
  by_cases hadmits : ∃ l, Store.Admits store.registry.get? l entries.reduceOption
  · obtain ⟨l, hadmits⟩ := hadmits
    obtain ⟨log, before, after, -, -, hsent, -⟩ := putAll_sent surface d hstore hadmits s
    obtain ⟨r, hr, hmade⟩ := Store.rows_of_batchesFor (hsent.subset hbatch) hrow
    refine ⟨r, ?_, hmade⟩
    rcases List.mem_append.mp hr with hr | hr
    · exact (List.mem_filter.mp hr).1
    · exact (List.mem_filter.mp hr).1
  · have hquiet : o.events = [] := by
      by_cases hpresent : entries.reduceOption = []
      · have hput : store.putAll entries = pure [] := by
          unfold Store.putAll
          rw [hpresent]
        simp only [o, hput]
        rfl
      · obtain ⟨fault, hrefused⟩ :=
          Store.putAll_of_not_admits (fun l h ↦ hadmits ⟨l, h⟩) hpresent
        simp only [o, hrefused]
        rfl
    rw [hquiet] at hbatch
    cases hbatch

end

/-- A record that is read has the key that the first cell of its row holds, whatever the type of
that key. So on a surface that decodes rows into the shape it is asked for, all that a client holds
after any history has a key of the right type, and no record that it stores is written under
another. -/
theorem keys_typed {σ : Type} (surface : Surface σ) (d : Dialect) :
    (∀ {store : Store}, store.registry.Reachable → ∀ (op : Operation) (s : σ),
      let o := (store.operate op).run.run surface d store.registry s
      ∃ log : List Entry, o.events = log.map Entry.event ∧
        surface.Conducts s (log.filterMap Entry.exchange?) o.state ∧
        ∀ reply, o.result = .ok reply → ∀ r ∈ reply.found, r ∈ op.given ∨
          ∃ l, store.registry.get? l.typeName = some l ∧
            r.ReadIn l (log.filterMap Entry.exchange?)) ∧
    (∀ (l : Layout) (row : Row) (r : Record), Record.ofRow l row = .ok r →
      row.head?.bind Key.ofValue? = some r.key ∧ r.layout = l ∧
        (r.Keyed ↔ ∃ v ∈ row.head?,
          v.fieldType = l.keyType.fieldType ∨ v.fieldType = .i32 ∧ l.keyType = .int)) ∧
    (surface.Shaped → ∀ (s : σ) (h : Holding σ),
      Relation.ReflTransGen (Holding.Step surface d) (.start s) h → h.Keyed ∧
        ∀ (store : Store) (entries : List (Option Record)), store.registry.Reachable →
          (∀ r ∈ entries.reduceOption, r ∈ h.records) →
          let o := (store.putAll entries).run.run surface d store.registry h.state
          ∀ batch ∈ o.events.filterMap Event.batch?, ∀ row ∈ batch.2,
            ∃ r ∈ entries.reduceOption, r.Keyed ∧ (row = insertRow r ∨ row = updateRow r)) := by
  refine ⟨fun hstore op s ↦ operate_found surface d hstore op s, ?_, ?_⟩
  · intro l row r hread
    exact ⟨Record.key_of_ofRow hread, Record.layout_of_ofRow hread,
      Record.keyed_iff_of_ofRow hread⟩
  · intro hshaped s h hrun
    have hkeyed : h.Keyed := Holding.keyed_of_history hrun hshaped ⟨nofun, nofun⟩
    refine ⟨hkeyed, ?_⟩
    intro store entries hstore hheld o batch hbatch row hrow
    obtain ⟨r, hr, hmade⟩ := putAll_rows surface d hstore entries h.state batch hbatch row hrow
    exact ⟨r, hr, hkeyed.2 r (hheld r hr), hmade⟩

/-- A note is built, put into a database and read back. -/
theorem keys_typed_note :
    let t : RecordType := ⟨"Note", none, "id", .int, [⟨"getTitle", .text, false⟩]⟩
    let l : Layout := ⟨"Note", none, "id", .int, [("title", .text)]⟩
    let store : Store := ⟨(Registry.empty.register t).2, ⟨1⟩, false⟩
    let note : Record := ⟨l, .int 1, [.null .text]⟩
    let made := (Sqlite.Connection.opened []).createTable "Note"
      [("id", "INTEGER PRIMARY KEY"), ("title", "TEXT")]
    let s := made.toOption.getD (.opened [])
    let stored := (store.operate (.putAll [some note])).run.run Surface.sqlite .sqlite
      store.registry s
    let read := (store.operate (.getAll "Note")).run.run Surface.sqlite .sqlite
      store.registry stored.state
    store.registry.Reachable ∧ read.result.toOption.map Reply.found = some [note] ∧
      (∃ log : List Entry, note.ReadIn l (log.filterMap Entry.exchange?)) ∧
      Surface.sqlite.Shaped ∧ ∃ h : Holding Sqlite.Connection,
        Relation.ReflTransGen (Holding.Step Surface.sqlite .sqlite) (.start s) h ∧
          h.records = [note, note, note] ∧ h.Keyed ∧
          let o := (store.putAll [some note]).run.run Surface.sqlite .sqlite store.registry h.state
          ∀ batch ∈ o.events.filterMap Event.batch?, ∀ row ∈ batch.2,
            ∃ r ∈ [note], r.Keyed ∧ (row = insertRow r ∨ row = updateRow r) := by
  intro t l store note made s stored read
  have hstore : store.registry.Reachable := .register t .empty
  have hresolve : Layout.resolve ⟨"Note", none, "id", .int, [⟨"getTitle", .text, false⟩]⟩
      = .ok ⟨"Note", none, "id", .int, [("title", .text)]⟩ := rfl
  have hregistered : store.registry.get? "Note" = some l :=
    Registry.get?_register_self (t := t) rfl hresolve
  have hstored : stored.result.toOption.map Reply.found = some [note] := by decide +kernel
  have hread : read.result.toOption.map Reply.found = some [note] := by decide +kernel
  have hshaped : Surface.sqlite.Shaped :=
    fun _ _ _ _ _ _ h ↦ Sqlite.Connection.types_of_query h
  have hdraft : store.registry.newDraft "Note" (.int 1) = .ok (.empty l (.int 1)) := by
    simp only [Registry.newDraft, Registry.require, hregistered]
    rfl
  let built : Holding Sqlite.Connection :=
    ⟨[⟨l, .int 1, [.null .text], true⟩, .empty l (.int 1)], [note], s⟩
  have hbuilt : Relation.ReflTransGen (Holding.Step Surface.sqlite .sqlite) (.start s) built :=
    .tail (.single (.newDraft hdraft)) (.build (List.mem_singleton_self _) rfl)
  have hgiven : ∀ r ∈ (Operation.putAll [some note]).given, r ∈ built.records := fun _ hr ↦ hr
  let put : Holding Sqlite.Connection :=
    ⟨built.drafts, (stored.result.toOption.map Reply.found).getD [] ++ [note], stored.state⟩
  have hput : Relation.ReflTransGen (Holding.Step Surface.sqlite .sqlite) (.start s) put :=
    hbuilt.tail (.operate hstore hgiven rfl)
  have hnothing : ∀ r ∈ (Operation.getAll "Note").given, r ∈ put.records :=
    fun _ hr ↦ absurd hr List.not_mem_nil
  have hget := hput.tail (.operate hstore hnothing rfl)
  obtain ⟨hfound, hrow, hhistory⟩ := keys_typed Surface.sqlite .sqlite
  refine ⟨hstore, hread, ?_, hshaped, _, hget, ?_, ?_⟩
  · obtain ⟨log, -, -, hlog⟩ := hfound hstore (.getAll "Note") stored.state
    obtain ⟨reply, hreply, hnote⟩ := Option.map_eq_some_iff.mp hread
    have hresult : read.result = .ok reply := by
      cases hcases : read.result with
      | error e =>
          rw [hcases] at hreply
          cases hreply
      | ok found =>
          rw [hcases] at hreply
          rw [Option.some.inj hreply]
    have hmem : note ∈ reply.found := by
      rw [hnote]
      exact List.mem_singleton_self note
    rcases hlog reply hresult note hmem with hgave | ⟨l', -, hreadIn⟩
    · exact absurd hgave List.not_mem_nil
    · obtain ⟨inTransaction, sql, params, rows, hquery, row, hmem, hofRow⟩ := hreadIn
      obtain ⟨-, hlayout, -⟩ := hrow l' row note hofRow
      obtain rfl : l = l' := hlayout
      exact ⟨log, inTransaction, sql, params, rows, hquery, row, hmem, hofRow⟩
  · show (read.result.toOption.map Reply.found).getD []
      ++ ((stored.result.toOption.map Reply.found).getD [] ++ [note]) = _
    rw [hread, hstored]
    rfl
  · obtain ⟨hkeyed, hrows⟩ := hhistory hshaped s _ hget
    refine ⟨hkeyed, hrows store [some note] hstore fun _ hr ↦ ?_⟩
    exact List.mem_append_right _ (List.mem_append_right _ hr)

/-- A surface that does not keep to the shape answers a question for notes with a text in front. The
text becomes the key of a note whose keys are integers, and the note is stored under it. -/
theorem getAll_foreign_key :
    let t : RecordType := ⟨"Note", none, "id", .int, [⟨"getTitle", .text, false⟩]⟩
    let store : Store := ⟨(Registry.empty.register t).2, ⟨500⟩, false⟩
    let script : List ScriptReply := [⟨none, [[.text "x", .text "a"]], 0⟩]
    let o := (store.getAll "Note").run.run .script .sqlite store.registry script
    ∃ r : Record, o.result = .ok [r] ∧ store.registry.get? "Note" = some r.layout ∧ ¬ r.Keyed ∧
      ((store.putAll [some r]).run.run .script .sqlite store.registry o.state).events.filterMap
        Event.batch? = [("INSERT INTO \"Note\" (\"id\", \"title\") VALUES (?1, ?2)",
          [[.text "x", .text "a"]])] := by
  intro t store script o
  let l : Layout := ⟨"Note", none, "id", .int, [("title", .text)]⟩
  have hfound : o.result.toOption = some [⟨l, .text "x", [.text "a"]⟩] := by decide +kernel
  refine ⟨⟨l, .text "x", [.text "a"]⟩, ?_, by decide +kernel, nofun, by decide +kernel⟩
  cases hresult : o.result with
  | error e =>
      rw [hresult] at hfound
      cases hfound
  | ok found =>
      rw [hresult] at hfound
      rw [Option.some.inj hfound]

end RecordStore
