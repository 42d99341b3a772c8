import RecordStore.Proofs.KeyedMap

namespace RecordStore

open Store (Admits Takes countOf keysOf)

/-!
# How operations fail

An operation succeeds, or is refused before it has done anything, or fails with the first failure
that its log holds, wrapped once with the name of the operation, the type and the keys asked for.
Actions that report their first failure are put together by `Action.Reports`; the wrapping and the
refusals are added around them.
-/

def failureOf {α : Type} : Except Error α → Option Error
  | .ok _ => none
  | .error e => some e

@[simp] theorem failureOf_eq_some {α : Type} {x : Except Error α} {e : Error} :
    failureOf x = some e ↔ x = .error e := by
  cases x <;> simp [failureOf]

/-- The failure that a storage error wraps. -/
def Error.source? : Error → Option Error
  | storage _ _ _ source => some source
  | _ => none

/-! ## What an operation is about -/

namespace Operation

/-- The operation of the store that does the work. -/
def method : Operation → String
  | put _ | putAll _ => "put_all"
  | remove _ _ | removeRecords _ => "remove"
  | removeAll _ => "remove_all"
  | get _ _ => "get"
  | getSome _ _ => "get_some"
  | getAll _ => "get_all"
  | getSize _ => "get_size"
  | contains _ _ | containsRecord _ => "contains"

/-- The keys that are named, or the keys of the records that are given, in their order. -/
def subject : Operation → Subject
  | get _ key | contains _ key => .one key
  | containsRecord entry => (entry.map fun r ↦ Subject.one r.key).getD .whole
  | getSome _ keys | remove _ keys => .ids keys
  | removeRecords entries => .ids (entries.reduceOption.map Record.key)
  | put entry => .records (entry.toList.map Record.key)
  | putAll entries => .records (entries.reduceOption.map Record.key)
  | getAll _ | getSize _ | removeAll _ => .whole

/-- What the operation needs the rows of an answer for. -/
def judge : Operation → List Row → Except Error Unit
  | getSize _, rows => (countOf rows).map fun _ ↦ ()
  | put _, rows | putAll _, rows => (keysOf rows).map fun _ ↦ ()
  | _, _ => .ok ()

end Operation

/-! ## Failures in a log -/

/-- A call fails by itself or by rows that are of no use. -/
def Exchange.failure? (judge : List Row → Except Error Unit) : Exchange → Option Error
  | @mk .rows _ reply => failureOf (reply.bind judge)
  | @mk _ _ reply => failureOf reply

/-- A call may fail, and a row may fail to become a record of its type. -/
def Operation.failure? (layout? : String → Option Layout) (op : Operation) : Entry → Option Error
  | .exchange x => x.failure? op.judge
  | .notice (.materializing typeName row) =>
    (layout? typeName).bind fun l ↦ failureOf (Record.ofRow l row)
  | .notice _ => none

/-- How an operation may end, and with what log: it is refused if it is not accepted, and otherwise
it succeeds or fails. -/
inductive Operation.Classified {α : Type} (layout? : String → Option Layout) (op : Operation) :
    List Entry → Except Error α → Prop
  | refused (fault : ArgumentFault) : ¬ op.Accepted layout? →
    Classified layout? op [] (.error (.illegalArgument fault))
  | succeeded {log : List Entry} (a : α) : op.Accepted layout? →
    log.findSome? (op.failure? layout?) = none → Classified layout? op log (.ok a)
  | failed {log : List Entry} {typeName : String} {source : Error} : op.Accepted layout? →
    op.typeNames.head? = some typeName → (∃ x, Entry.exchange x ∈ log) →
    log.findSome? (op.failure? layout?) = some source →
    Classified layout? op log (.error (.storage op.method typeName op.subject source))

section

variable {layout? : String → Option Layout} {l : Layout}

theorem Store.Takes.ne_none {typeName : String} {keys : List Key}
    (h : Takes layout? l typeName keys) : layout? typeName ≠ none := by
  rw [h.registered]
  exact Option.some_ne_none l

theorem Store.Admits.ne_none {records : List Record} (h : Admits layout? l records) {r : Record}
    (hr : r ∈ records) : layout? r.typeName ≠ none := by
  rw [Record.typeName, h.layouts r hr, h.registered]
  exact Option.some_ne_none l

/-- The types of an accepted operation are registered. -/
theorem Operation.Accepted.registered {op : Operation} (h : op.Accepted layout?)
    {typeName : String} (hmem : typeName ∈ op.typeNames) : layout? typeName ≠ none := by
  cases op with
  | put entry =>
      cases entry with
      | none => cases hmem
      | some r =>
          obtain rfl := List.mem_singleton.mp hmem
          obtain ⟨l, hadmits⟩ := h
          exact hadmits.ne_none List.mem_cons_self
  | putAll entries =>
      obtain ⟨r, hr, rfl⟩ := List.mem_map.mp hmem
      rcases h with hnone | ⟨l, hadmits⟩
      · simp [given, hnone] at hr
      · exact hadmits.ne_none hr
  | removeRecords entries =>
      obtain ⟨r, hr, rfl⟩ := List.mem_map.mp hmem
      rcases h with hnone | ⟨name, l, hname, htakes⟩
      · simp [given, hnone] at hr
      · rw [hname r hr]
        exact htakes.ne_none
  | containsRecord entry =>
      cases entry with
      | none => cases hmem
      | some r =>
          obtain rfl := List.mem_singleton.mp hmem
          obtain ⟨l, htakes⟩ := h
          exact htakes.ne_none
  | _ =>
      obtain rfl := List.mem_singleton.mp hmem
      obtain ⟨l, htakes⟩ := h
      exact htakes.ne_none

end

/-! ## Reporting the first failure -/

namespace Action

variable {σ α β : Type} {surface : Surface σ} {d : Dialect} {fails : Entry → Option Error}

/-- The action fails exactly if its log holds a failure, and then with the first one. -/
def Reports (surface : Surface σ) (d : Dialect) (fails : Entry → Option Error) (a : Action α) :
    Prop :=
  ∀ s, a.Ensures surface d s fun log outcome _ ↦ log.findSome? fails = failureOf outcome

theorem reports_pure (a : α) : (pure a : Action α).Reports surface d fails :=
  fun _ ↦ rfl

theorem Reports.bind {a : Action α} {f : α → Action β} (ha : a.Reports surface d fails)
    (hf : ∀ x, (f x).Reports surface d fails) : (a >>= f).Reports surface d fails := by
  intro s
  rw [ensures_bind]
  refine (ha s).mono fun log outcome s' hlog ↦ ?_
  cases outcome with
  | error e => exact hlog
  | ok x =>
      simp only [Then]
      refine (hf x s').mono fun log' outcome' _ hlog' ↦ ?_
      rw [List.findSome?_append, hlog, hlog']
      rfl

theorem reports_perform {k : ReplyKind} {c : Call Request k} {spelled : Call String k}
    (hc : c.inDialect d = .ok spelled)
    (hfails : ∀ reply, fails (.exchange ⟨spelled, reply⟩) = failureOf reply) :
    (perform c).Reports surface d fails := by
  intro s
  rw [ensures_perform hc, List.findSome?_singleton, hfails]

/-- A call whose answer is looked at before it is used. -/
theorem reports_perform_ofExcept {k : ReplyKind} {c : Call Request k} {spelled : Call String k}
    {look : k.Reply → Except Error α} (hc : c.inDialect d = .ok spelled)
    (hfails : ∀ reply, fails (.exchange ⟨spelled, reply⟩) = failureOf (reply.bind look)) :
    (perform c >>= fun reply ↦ ofExcept (look reply)).Reports surface d fails := by
  intro s
  rw [ensures_bind, ensures_perform hc]
  cases hreply : (surface.answer spelled s).1 with
  | error e => simp [Then, hfails, failureOf, Except.bind]
  | ok reply =>
      simp only [Then]
      rw [ensures_ofExcept]
      simp [hfails, Except.bind]

/-- A notice of something that is looked at next. -/
theorem reports_tell_ofExcept {n : Notice} {e : Except Error α} {f : α → Action β}
    (hn : fails (.notice n) = failureOf e) (hf : ∀ a, (f a).Reports surface d fails) :
    (tell n >>= fun _ ↦ ofExcept e >>= f).Reports surface d fails := by
  intro s
  rw [ensures_bind, ensures_tell]
  simp only [Then]
  rw [ensures_bind, ensures_ofExcept]
  cases e with
  | error e => simp [Then, hn, failureOf]
  | ok a =>
      simp only [Then]
      refine (hf a s).mono fun log outcome _ hlog ↦ ?_
      simp [hn, failureOf, hlog]

theorem calls_perform {k : ReplyKind} {c : Call Request k} {spelled : Call String k}
    (hc : c.inDialect d = .ok spelled) (s : σ) :
    (perform c).Ensures surface d s fun log _ _ ↦ ∃ x, Entry.exchange x ∈ log := by
  rw [ensures_perform hc]
  exact ⟨_, List.mem_singleton_self _⟩

theorem calls_perform_bind {k : ReplyKind} {c : Call Request k} {spelled : Call String k}
    (hc : c.inDialect d = .ok spelled) (f : k.Reply → Action α) (s : σ) :
    (perform c >>= f).Ensures surface d s fun log _ _ ↦ ∃ x, Entry.exchange x ∈ log := by
  rw [ensures_bind, ensures_perform hc]
  cases (surface.answer spelled s).1 with
  | error e => exact ⟨_, List.mem_singleton_self _⟩
  | ok reply => exact ⟨_, List.mem_append_left _ (List.mem_singleton_self _)⟩

end Action

/-! ## The calls of an operation -/

section

variable (d : Dialect) (l : Layout) (statement : Statement) (count : Nat)

theorem Layout.text_eq_ok (h : statement.isSized = true → count ≠ 0) :
    l.text d statement count = .ok (l.sql? d statement count) :=
  if_neg fun hnone ↦ h hnone.1 hnone.2

theorem Call.inDialect_query (h : statement.isSized = true → count ≠ 0) (inTransaction : Bool)
    (params : List Value) (shape : List FieldType) :
    (Call.query inTransaction ⟨l, statement, count⟩ params shape).inDialect d
      = .ok (.query inTransaction ((l.sql? d statement count).getD "") params shape) := by
  simp [inDialect, Layout.text_eq_ok d l statement count h, Except.map, Error.ofArgument]

theorem Call.inDialect_write (h : statement.isSized = true → count ≠ 0) (inTransaction : Bool)
    (params : List Value) : (Call.write inTransaction ⟨l, statement, count⟩ params).inDialect d
      = .ok (.write inTransaction ((l.sql? d statement count).getD "") params) := by
  simp [inDialect, Layout.text_eq_ok d l statement count h, Except.map, Error.ofArgument]

end

namespace Store

variable {σ : Type} {surface : Surface σ} {d : Dialect} {layout? : String → Option Layout}
  {op : Operation} {l : Layout}

theorem reports_materialize (hl : layout? l.typeName = some l) (rows : List Row) :
    (materialize l rows).Reports surface d (op.failure? layout?) := by
  induction rows with
  | nil => exact Action.reports_pure []
  | cons row rows ih =>
      refine Action.reports_tell_ofExcept ?_ fun r ↦ ?_
      · simp [Operation.failure?, hl]
      · exact ih.bind fun found ↦ Action.reports_pure _

theorem reports_perform {k : ReplyKind} {c : Call Request k} {spelled : Call String k}
    (hc : c.inDialect d = .ok spelled) (hjudge : ∀ rows, op.judge rows = .ok ()) :
    (Action.perform c).Reports surface d (op.failure? layout?) := by
  refine Action.reports_perform hc fun reply ↦ ?_
  cases reply with
  | error e => cases k <;> rfl
  | ok answer =>
      cases k with
      | rows => exact congrArg failureOf (hjudge answer)
      | _ => rfl

theorem reports_fetchChunks (hl : layout? l.typeName = some l)
    (hjudge : ∀ rows, op.judge rows = .ok ()) {slices : List (List Key)}
    (hslices : ∀ slice ∈ slices, slice ≠ []) :
    (fetchChunks l slices).Reports surface d (op.failure? layout?) := by
  induction slices with
  | nil => exact Action.reports_pure []
  | cons slice slices ih =>
      obtain ⟨hslice, hrest⟩ := List.forall_mem_cons.mp hslices
      have hcount : Statement.selectSome.isSized = true → slice.length ≠ 0 :=
        fun _ ↦ List.length_pos_iff.mpr hslice |>.ne'
      refine (reports_perform (Call.inDialect_query d l _ _ hcount ..) hjudge).bind fun rows ↦ ?_
      refine (reports_materialize hl rows).bind fun found ↦ ?_
      exact (ih hrest).bind fun rest ↦ Action.reports_pure _

theorem calls_fetchSome (store : Store) {keys : List Key} (hkeys : keys ≠ []) (s : σ) :
    (store.fetchSome l keys).Ensures surface d s fun log _ _ ↦ ∃ x, Entry.exchange x ∈ log := by
  obtain ⟨key, keys, rfl⟩ := List.exists_cons_of_ne_nil hkeys
  rw [fetchSome, chunks, fetchChunks]
  exact Action.calls_perform_bind (Call.inDialect_query d l _ _ (by simp) ..) _ s

end Store

/-! ## Endings -/

namespace Operation

variable {σ α β : Type} {surface : Surface σ} {d : Dialect} {layout? : String → Option Layout}
  {op : Operation} {log log' : List Entry}

theorem Classified.map {outcome : Except Error α} (h : op.Classified layout? log outcome)
    (f : α → β) : op.Classified layout? log (outcome.map f) := by
  cases h with
  | refused fault hnot => exact .refused fault hnot
  | succeeded a haccepted hnone => exact .succeeded (f a) haccepted hnone
  | failed haccepted hname hcall hfirst => exact .failed haccepted hname hcall hfirst

theorem Classified.append {a : α} (h : op.Classified layout? log (.ok a)) {b : β}
    (hlog : log'.findSome? (op.failure? layout?) = none) :
    op.Classified layout? (log ++ log') (.ok b) := by
  cases h with
  | succeeded _ haccepted hnone =>
      exact .succeeded b haccepted (by rw [List.findSome?_append, hnone, hlog]; rfl)

/-- Wrapping an action that reports its first failure, after a call. -/
theorem classified_during (op : Operation) (haccepted : op.Accepted layout?) {typeName : String}
    (hname : op.typeNames.head? = some typeName) {a : Action α}
    (ha : a.Reports surface d (op.failure? layout?)) {s : σ}
    (hcalls : a.Ensures surface d s fun log _ _ ↦ ∃ x, Entry.exchange x ∈ log) :
    (a.during op.method typeName op.subject).Ensures surface d s
      fun log outcome _ ↦ op.Classified layout? log outcome := by
  rw [Action.ensures_during]
  have hboth : a.Ensures surface d s fun log outcome _ ↦
      log.findSome? (op.failure? layout?) = failureOf outcome ∧ ∃ x, Entry.exchange x ∈ log :=
    ⟨ha s, hcalls⟩
  refine hboth.mono ?_
  rintro log outcome _ ⟨hfirst, hcall⟩
  cases outcome with
  | ok x => exact .succeeded x haccepted hfirst
  | error e => exact .failed haccepted hname hcall hfirst

/-- Going on quietly after a classified action. -/
theorem classified_bind {a : Action α} {f : α → Action β} {s : σ}
    (ha : a.Ensures surface d s fun log outcome _ ↦ op.Classified layout? log outcome)
    (hf : ∀ x s, (f x).Ensures surface d s fun log outcome _ ↦
      log.findSome? (op.failure? layout?) = none ∧ ∃ b, outcome = .ok b) :
    (a >>= f).Ensures surface d s fun log outcome _ ↦ op.Classified layout? log outcome := by
  rw [Action.ensures_bind]
  refine ha.mono fun log outcome s' h ↦ ?_
  cases outcome with
  | error e =>
      cases h with
      | refused fault hnot => exact .refused fault hnot
      | failed haccepted hname hcall hfirst => exact .failed haccepted hname hcall hfirst
  | ok x =>
      simp only [Action.Then]
      refine (hf x s').mono ?_
      rintro log' _ _ ⟨hnone, b, rfl⟩
      exact h.append hnone

end Operation

/-! ## Every operation -/

namespace Store

variable {σ : Type} {surface : Surface σ} {d : Dialect} {store : Store} {op : Operation} {s : σ}

theorem findSome?_told (store : Store) (op : Operation) (layout? : String → Option Layout)
    (notices : List Notice) (h : ∀ n ∈ notices, op.failure? layout? (.notice n) = none) :
    ((store.told notices).map Entry.notice).findSome? (op.failure? layout?) = none := by
  rw [List.findSome?_eq_none_iff]
  intro entry hentry
  obtain ⟨n, hn, rfl⟩ := List.mem_map.mp hentry
  unfold told at hn
  split at hn
  · exact h n hn
  · cases hn

section

variable {typeName : String} {keys : List Key}

theorem classified_taking {α : Type} {f : α → Reply} {operation : String}
    (haccepted : op.Accepted store.registry.get? ↔ ∃ l, Takes store.registry.get? l typeName keys)
    {body : Layout → Action α} (hbody : ∀ l, Takes store.registry.get? l typeName keys →
      op.Accepted store.registry.get? → (body l).Ensures surface d s fun log outcome _ ↦
        op.Classified store.registry.get? log outcome) :
    (f <$> store.taking typeName operation keys body).Ensures surface d s fun log outcome _ ↦
      op.Classified store.registry.get? log outcome := by
  rw [Action.ensures_map]
  refine ensures_taking (fun l htakes ↦ ?_) fun hnone fault ↦ .refused fault fun h ↦ ?_
  · have hending := hbody l htakes (haccepted.mpr ⟨l, htakes⟩)
    exact hending.mono fun log outcome _ h ↦ h.map f
  · obtain ⟨l, htakes⟩ := haccepted.mp h
    exact hnone l htakes

variable (op) in
theorem classified_contains {key : Key} (haccepted : op.Accepted store.registry.get? ↔
      ∃ l, Takes store.registry.get? l typeName [key])
    (hhead : op.typeNames.head? = some typeName) (hmethod : op.method = "contains")
    (hsubject : op.subject = .one key) (hjudge : ∀ rows, op.judge rows = .ok ()) :
    (Reply.truth <$> store.contains typeName key).Ensures surface d s fun log outcome _ ↦
      op.Classified store.registry.get? log outcome := by
  rw [contains_eq, ← hmethod, ← hsubject]
  refine classified_taking haccepted fun l _ hop ↦ ?_
  have hcall := Call.inDialect_query d l .selectKeys 1 (fun _ ↦ Nat.one_ne_zero) false
    [key.toValue] [l.keyType.fieldType]
  refine Operation.classified_during op hop hhead ?_ (Action.calls_perform_bind hcall _ s)
  exact (reports_perform hcall hjudge).bind fun rows ↦ Action.reports_pure _

variable (op) in
theorem classified_remove (haccepted : op.Accepted store.registry.get? ↔
      ∃ l, Takes store.registry.get? l typeName keys)
    (hhead : op.typeNames.head? = some typeName) (hmethod : op.method = "remove")
    (hsubject : op.subject = .ids keys) (hjudge : ∀ rows, op.judge rows = .ok ()) :
    (Reply.count <$> store.remove typeName keys).Ensures surface d s fun log outcome _ ↦
      op.Classified store.registry.get? log outcome := by
  rw [remove_eq, ← hmethod, ← hsubject]
  refine classified_taking haccepted fun l _ hop ↦ ?_
  split
  · exact .succeeded 0 hop rfl
  · next hkeys =>
    have hcall := Call.inDialect_write d l .delete keys.length
      (fun _ ↦ List.length_pos_iff.mpr hkeys |>.ne') false (keys.map Key.toValue)
    refine Operation.classified_bind (Operation.classified_during op hop hhead
      (reports_perform hcall hjudge) (Action.calls_perform hcall s)) fun count s' ↦ ?_
    split
    · rw [Action.ensures_bind, Action.ensures_announce]
      simp only [Action.Then]
      rw [Action.ensures_pure, List.append_nil]
      exact ⟨findSome?_told _ _ _ _ (by simp [Operation.failure?]), count, rfl⟩
    · exact ⟨rfl, count, rfl⟩

end

section

variable (hstore : store.registry.Reachable)

include hstore

theorem registered_typeName {l : Layout} {typeName : String} {keys : List Key}
    (h : Takes store.registry.get? l typeName keys) :
    store.registry.get? l.typeName = some l := by
  rw [(hstore.sound.layouts h.registered).1, h.registered]

theorem classified_get (typeName : String) (key : Key) :
    (store.operate (.get typeName key)).Ensures surface d s fun log outcome _ ↦
      (Operation.get typeName key).Classified store.registry.get? log outcome := by
  rw [operate, get_eq]
  refine classified_taking Iff.rfl fun l htakes hop ↦ ?_
  refine Operation.classified_bind (Operation.classified_during (.get typeName key) hop rfl
    (reports_fetchChunks (registered_typeName hstore htakes) (fun _ ↦ rfl)
      fun slice h ↦ ne_nil_of_mem_chunks h) (calls_fetchSome store (List.cons_ne_nil key []) s)) ?_
  exact fun found _ ↦ ⟨rfl, found.getLast?, rfl⟩

theorem classified_getSome (typeName : String) (keys : List Key) :
    (store.operate (.getSome typeName keys)).Ensures surface d s fun log outcome _ ↦
      (Operation.getSome typeName keys).Classified store.registry.get? log outcome := by
  rw [operate, getSome_eq]
  refine classified_taking Iff.rfl fun l htakes hop ↦ ?_
  split
  · exact .succeeded [] hop rfl
  · next hkeys =>
    exact Operation.classified_during (.getSome typeName keys) hop rfl
      (reports_fetchChunks (registered_typeName hstore htakes) (fun _ ↦ rfl)
        fun slice h ↦ ne_nil_of_mem_chunks h) (calls_fetchSome store hkeys s)

theorem classified_getAll (typeName : String) :
    (store.operate (.getAll typeName)).Ensures surface d s fun log outcome _ ↦
      (Operation.getAll typeName).Classified store.registry.get? log outcome := by
  rw [operate, getAll_eq]
  refine classified_taking Iff.rfl fun l htakes hop ↦ ?_
  have hcall := Call.inDialect_query d l .selectAll 0 (by simp [Statement.isSized]) false []
    l.rowShape
  refine Operation.classified_during (.getAll typeName) hop rfl ?_
    (Action.calls_perform_bind hcall _ s)
  exact (reports_perform hcall fun _ ↦ rfl).bind fun rows ↦
    reports_materialize (registered_typeName hstore htakes) rows

end

theorem classified_getSize (typeName : String) :
    (store.operate (.getSize typeName)).Ensures surface d s fun log outcome _ ↦
      (Operation.getSize typeName).Classified store.registry.get? log outcome := by
  rw [operate, getSize_eq]
  refine classified_taking Iff.rfl fun l htakes hop ↦ ?_
  have hcall := Call.inDialect_query d l .selectCount 0 (by simp [Statement.isSized]) false []
    [.i64]
  refine Operation.classified_during (.getSize typeName) hop rfl
    (Action.reports_perform_ofExcept hcall fun reply ↦ ?_) (Action.calls_perform_bind hcall _ s)
  cases reply with
  | error e => rfl
  | ok rows =>
      simp only [Operation.failure?, Exchange.failure?, Except.bind, Operation.judge]
      cases countOf rows <;> rfl

theorem classified_removeAll (typeName : String) :
    (store.operate (.removeAll typeName)).Ensures surface d s fun log outcome _ ↦
      (Operation.removeAll typeName).Classified store.registry.get? log outcome := by
  rw [operate, removeAll_eq]
  refine classified_taking Iff.rfl fun l htakes hop ↦ ?_
  have hcall := Call.inDialect_write d l .deleteAll 0 (by simp [Statement.isSized]) false []
  exact Operation.classified_during (.removeAll typeName) hop rfl
    (reports_perform hcall fun _ ↦ rfl) (Action.calls_perform hcall s)

theorem classified_removeRecords (entries : List (Option Record)) :
    (store.operate (.removeRecords entries)).Ensures surface d s fun log outcome _ ↦
      (Operation.removeRecords entries).Classified store.registry.get? log outcome := by
  rw [operate]
  by_cases hpresent : entries.reduceOption = []
  · rw [removeRecords_of_none store hpresent]
    exact .succeeded (Reply.count 0) (.inl hpresent) rfl
  by_cases hone : ∃ typeName, ∀ r ∈ entries.reduceOption, r.typeName = typeName
  · obtain ⟨typeName, hone⟩ := hone
    rw [removeRecords_of_one store typeName hpresent hone]
    obtain ⟨first, rest, hrecords⟩ := List.exists_cons_of_ne_nil hpresent
    have hfirst : first ∈ entries.reduceOption := by simp [hrecords]
    have hhead : (Operation.removeRecords entries).typeNames.head? = some typeName := by
      simp [Operation.typeNames, Operation.given, hrecords, hone first hfirst]
    exact classified_remove (.removeRecords entries)
      (Operation.accepted_removeRecords _ hpresent hone) hhead rfl rfl fun _ ↦ rfl
  · have hrefused : ∃ fault, store.removeRecords entries = throw (.illegalArgument fault) :=
      removeRecords_of_mixed store hpresent hone
    obtain ⟨fault, hrefused⟩ := hrefused
    rw [hrefused]
    refine .refused fault ?_
    rintro (hnone | ⟨name, l, hname, -⟩)
    · exact hpresent hnone
    · exact hone ⟨name, hname⟩

/-! ## Batches -/

section

variable {layout? : String → Option Layout}
  (hjudge : ∀ rows, op.judge rows = (keysOf rows).map fun _ ↦ ())

include hjudge

theorem failure?_exchange (x : Exchange) :
    op.failure? layout? (.exchange x) = failureOf x.verdict := by
  obtain ⟨call, reply⟩ := x
  rename_i kind
  cases reply with
  | error e => cases kind <;> rfl
  | ok answer =>
      cases kind with
      | rows =>
          simp only [Operation.failure?, Exchange.failure?, Exchange.verdict, Except.bind, hjudge]
          cases keysOf answer <;> rfl
      | _ => rfl

variable (layout?) in
theorem findSome?_verdicts {log : List Exchange} (h : ∀ x ∈ log, x.verdict.isOk = true) :
    (log.map Entry.exchange).findSome? (op.failure? layout?) = none := by
  rw [List.findSome?_eq_none_iff]
  intro entry hentry
  obtain ⟨x, hx, rfl⟩ := List.mem_map.mp hentry
  rw [failure?_exchange hjudge]
  have hok := h x hx
  cases hverdict : x.verdict with
  | ok keys => rfl
  | error e => simp [hverdict, Except.isOk, Except.toBool] at hok

/-- A transaction fails with the first failure of its calls. -/
theorem findSome?_transacted {plan : List Key → List Event} {log : List Exchange}
    {outcome : Except Error Unit} (h : Transacted plan log outcome) :
    (log.map Entry.exchange).findSome? (op.failure? layout?) = failureOf outcome := by
  have hopened : op.failure? layout?
      (.exchange ⟨.openTransaction .serializable, .ok ()⟩) = none := rfl
  -- the calls between the opening and the last one have all gone well
  cases h with
  | unopened e => rfl
  | rolledBack reply _ hmiddle hlast =>
      have hnone := findSome?_verdicts layout? hjudge hmiddle
      simp only [List.map_append, List.map_singleton, List.findSome?_append,
        List.findSome?_singleton, hopened, hnone, failure?_exchange hjudge, hlast]
      rfl
  | committed reply _ hmiddle =>
      have hnone := findSome?_verdicts layout? hjudge hmiddle
      simp only [List.map_append, List.map_singleton, List.findSome?_append,
        List.findSome?_singleton, hopened, hnone, failure?_exchange hjudge]
      cases outcome <;> rfl

omit hjudge in
theorem ne_nil_of_transacted {plan : List Key → List Event} {log : List Exchange}
    {outcome : Except Error Unit} (h : Transacted plan log outcome) : log ≠ [] := by
  cases h <;> simp

theorem classified_putAll {l : Layout} (hop : op.Accepted store.registry.get?)
    (hmethod : op.method = "put_all")
    (hhead : op.typeNames.head? = some l.typeName) {entries : List (Option Record)}
    (hsubject : op.subject = .records (entries.reduceOption.map Record.key))
    (hadmits : Admits store.registry.get? l entries.reduceOption)
    (hpresent : entries.reduceOption ≠ []) :
    (store.putAll entries).Ensures surface d s fun log outcome _ ↦
      op.Classified store.registry.get? log outcome := by
  rw [putAll_of_admits hadmits hpresent, Action.ensures_bind, Action.ensures_announce]
  simp only [Action.Then]
  rw [Action.ensures_bind, Action.ensures_during]
  refine (ensures_transaction store l entries.reduceOption s).mono ?_
  rintro log outcome s' ⟨exchanges, rfl, htransacted⟩
  have hcalls : (exchanges.map Entry.exchange).findSome? (op.failure? store.registry.get?)
      = failureOf outcome := findSome?_transacted hjudge htransacted
  have hbefore := findSome?_told store op store.registry.get?
    (entries.reduceOption.map .beforePersist) (by simp [Operation.failure?])
  have hafter := findSome?_told store op store.registry.get?
    (entries.reduceOption.map .afterPersist) (by simp [Operation.failure?])
  cases outcome with
  | error e =>
      obtain ⟨x, hx⟩ := List.exists_mem_of_ne_nil _ (ne_nil_of_transacted htransacted)
      have hmem : Entry.exchange x ∈ exchanges.map Entry.exchange := List.mem_map_of_mem hx
      simp only [Action.Then, Except.mapError, Error.during, ← hmethod, ← hsubject]
      refine .failed hop hhead ⟨x, List.mem_append_right _ hmem⟩ ?_
      rw [List.findSome?_append, hbefore, hcalls]
      rfl
  | ok _ =>
      simp only [Action.Then, Except.mapError]
      rw [Action.ensures_bind, Action.ensures_announce]
      simp only [Action.Then]
      rw [Action.ensures_pure]
      refine .succeeded _ hop ?_
      simp only [List.findSome?_append, hbefore, hcalls, hafter]
      rfl

variable (op) in
theorem classified_batch {entries : List (Option Record)}
    (haccepted : op.Accepted store.registry.get? ↔ entries.reduceOption = [] ∨
      ∃ l, Admits store.registry.get? l entries.reduceOption)
    (hmethod : op.method = "put_all")
    (hnames : op.typeNames = entries.reduceOption.map Record.typeName)
    (hsubject : op.subject = .records (entries.reduceOption.map Record.key))
    (f : List Record → Reply) :
    (f <$> store.putAll entries).Ensures surface d s fun log outcome _ ↦
      op.Classified store.registry.get? log outcome := by
  by_cases hpresent : entries.reduceOption = []
  · rw [putAll_of_none hpresent]
    exact .succeeded (f []) (haccepted.mpr (.inl hpresent)) rfl
  by_cases hadmits : ∃ l, Admits store.registry.get? l entries.reduceOption
  · have hop := haccepted.mpr (.inr hadmits)
    obtain ⟨l, hadmits⟩ := hadmits
    have hhead : op.typeNames.head? = some l.typeName := by
      obtain ⟨first, rest, hrecords⟩ := List.exists_cons_of_ne_nil hpresent
      have hfirst : first.layout = l := hadmits.layouts first (by simp [hrecords])
      rw [hnames, hrecords]
      exact congrArg (some ∘ Layout.typeName) hfirst
    rw [Action.ensures_map]
    refine (classified_putAll hjudge hop hmethod hhead hsubject hadmits hpresent).mono ?_
    intro log outcome _ h
    exact h.map f
  · obtain ⟨fault, hrefused⟩ := putAll_of_not_admits (fun l h ↦ hadmits ⟨l, h⟩) hpresent
    rw [hrefused]
    refine .refused fault fun h ↦ ?_
    exact (haccepted.mp h).elim hpresent hadmits

end

variable (surface d s) in
theorem classified_operate (hstore : store.registry.Reachable) (op : Operation) :
    (store.operate op).Ensures surface d s fun log outcome _ ↦
      op.Classified store.registry.get? log outcome := by
  cases op with
  | put entry =>
      cases entry with
      | none => exact .succeeded (Reply.record none) trivial rfl
      | some r =>
          have haccepted := Operation.accepted_put_some store.registry.get? r
          rw [operate_put_some]
          exact classified_batch (.put (some r)) (fun _ ↦ rfl) haccepted rfl rfl rfl _
  | putAll entries => exact classified_batch (.putAll entries) (fun _ ↦ rfl) Iff.rfl rfl rfl rfl _
  | remove typeName keys =>
      exact classified_remove (.remove typeName keys) Iff.rfl rfl rfl rfl fun _ ↦ rfl
  | removeRecords entries => exact classified_removeRecords entries
  | removeAll typeName => exact classified_removeAll typeName
  | get typeName key => exact classified_get hstore typeName key
  | getSome typeName keys => exact classified_getSome hstore typeName keys
  | getAll typeName => exact classified_getAll hstore typeName
  | getSize typeName => exact classified_getSize typeName
  | contains typeName key =>
      exact classified_contains (.contains typeName key) Iff.rfl rfl rfl rfl fun _ ↦ rfl
  | containsRecord entry =>
      cases entry with
      | none => exact .succeeded (Reply.truth false) trivial rfl
      | some r =>
          exact classified_contains (.containsRecord (some r)) Iff.rfl rfl rfl rfl fun _ ↦ rfl

end Store

/-! ## Failures are wrapped once -/

/-- No call of the surface fails with a storage error. -/
def Surface.Plain {σ : Type} (surface : Surface σ) : Prop :=
  ∀ {k : ReplyKind} (c : Call String k) (s : σ) (e : Error),
    (surface.answer c s).1 = .error e → e.source? = none

theorem Surface.script_plain : Surface.script.Plain := by
  intro k c replies e h
  cases replies with
  | nil => cases h
  | cons r replies =>
      simp only [Surface.script, ScriptReply.answer] at h
      split at h
      · cases h
        rfl
      · cases h

section

variable {σ : Type} {surface : Surface σ}

theorem Surface.Conducts.reply {s s' : σ} {log : List Exchange} (h : surface.Conducts s log s')
    {x : Exchange} (hx : x ∈ log) : ∃ s, x.reply = (surface.answer x.call s).1 := by
  induction log generalizing s with
  | nil => cases hx
  | cons first log ih =>
      obtain ⟨hreply, hrest⟩ := h
      rcases List.mem_cons.mp hx with rfl | hx
      · exact ⟨s, hreply⟩
      · exact ih hrest hx

theorem bind_eq_error {ε α β : Type} {x : Except ε α} {f : α → Except ε β} {e : ε} :
    x >>= f = .error e ↔ x = .error e ∨ ∃ a, x = .ok a ∧ f a = .error e := by
  cases x <;> simp [bind, Except.bind]

theorem map_eq_error {ε α β : Type} {x : Except ε α} {f : α → β} {e : ε} :
    x.map f = .error e ↔ x = .error e := by
  cases x <;> simp [Except.map]

theorem exists_of_mapM_eq_error {ε α β : Type} {f : α → Except ε β} {xs : List α} {e : ε}
    (h : xs.mapM f = .error e) : ∃ x ∈ xs, f x = .error e := by
  induction xs with
  | nil => cases h
  | cons x xs ih =>
      rw [List.mapM_cons] at h
      rcases bind_eq_error.mp h with hx | ⟨b, -, h⟩
      · exact ⟨x, List.mem_cons_self, hx⟩
      · rcases bind_eq_error.mp h with hxs | ⟨bs, -, h⟩
        · obtain ⟨x', hx', hfail⟩ := ih hxs
          exact ⟨x', List.mem_cons_of_mem x hx', hfail⟩
        · cases h

theorem Key.source?_of_ofValue {v : Value} {e : Error} (h : Key.ofValue v = .error e) :
    e.source? = none := by
  unfold Key.ofValue at h
  split at h <;> cases h
  rfl

theorem Record.source?_of_coerceRow {fields : List (String × FieldType)} {row : List Value}
    {e : Error} (h : coerceRow fields row = .error e) : e.source? = none := by
  induction fields generalizing row with
  | nil => cases h
  | cons field fields ih =>
      cases row with
      | nil => cases h
      | cons v row =>
          simp only [coerceRow] at h
          split at h
          · rcases bind_eq_error.mp h with hrest | ⟨rest, -, h⟩
            · exact ih hrest
            · cases h
          · cases h
            rfl

theorem Record.source?_of_ofRow {l : Layout} {row : List Value} {e : Error}
    (h : ofRow l row = .error e) : e.source? = none := by
  unfold ofRow at h
  split at h
  · split at h
    · rcases bind_eq_error.mp h with hkey | ⟨key, -, h⟩
      · exact Key.source?_of_ofValue hkey
      · rcases bind_eq_error.mp h with hvalues | ⟨values, -, h⟩
        · exact source?_of_coerceRow hvalues
        · cases h
    · cases h
      rfl
  · cases h
    rfl

theorem Store.source?_of_keysOf {rows : List Row} {e : Error} (h : keysOf rows = .error e) :
    e.source? = none := by
  obtain ⟨v, -, hv⟩ := exists_of_mapM_eq_error h
  exact Key.source?_of_ofValue hv

theorem Store.source?_of_countOf {rows : List Row} {e : Error} (h : countOf rows = .error e) :
    e.source? = none := by
  unfold countOf at h
  split at h <;> cases h
  rfl

namespace Operation

variable {op : Operation} {layout? : String → Option Layout} {e : Error}

theorem source?_of_judge {rows : List Row} (h : op.judge rows = .error e) : e.source? = none := by
  unfold judge at h
  split at h
  · exact Store.source?_of_countOf (map_eq_error.mp h)
  · exact Store.source?_of_keysOf (map_eq_error.mp h)
  · exact Store.source?_of_keysOf (map_eq_error.mp h)
  · cases h

/-- Only the surface itself can bring in a storage error. -/
theorem source?_of_failure? {entry : Entry} (h : op.failure? layout? entry = some e) :
    e.source? = none ∨ ∃ x, entry = .exchange x ∧ x.reply = .error e := by
  cases entry with
  | notice n =>
      cases n with
      | materializing typeName row =>
          obtain ⟨l, -, hrow⟩ := Option.bind_eq_some_iff.mp h
          exact .inl (Record.source?_of_ofRow (failureOf_eq_some.mp hrow))
      | _ => cases h
  | exchange x =>
      obtain ⟨call, reply⟩ := x
      rename_i kind
      cases reply with
      | error e' =>
          obtain rfl : e' = e := by
            cases kind <;> exact Option.some.inj h
          exact .inr ⟨_, rfl, rfl⟩
      | ok answer =>
          cases kind with
          | rows => exact .inl (source?_of_judge (failureOf_eq_some.mp h))
          | _ => cases h

end Operation

/-- Whatever the surface answers, an operation that is not accepted is refused with nothing in its
log. Any other one succeeds without a failure in its log or fails with the first failure in it,
wrapped once under the name of the operation. What is asked of a type that is not registered is
refused. -/
theorem operate_classified (surface : Surface σ) (d : Dialect) {store : Store}
    (hstore : store.registry.Reachable) (op : Operation) (s : σ) :
    let o := (store.operate op).run.run surface d store.registry s
    ∃ log : List Entry, o.events = log.map Entry.event ∧
      surface.Conducts s (log.filterMap Entry.exchange?) o.state ∧
      op.Classified store.registry.get? log o.result ∧
      (surface.Plain → ∀ e source, o.result = .error e → e.source? = some source →
        source.source? = none) ∧
      ∀ typeName ∈ op.typeNames, store.registry.get? typeName = none →
        ∃ fault, o.result = .error (.illegalArgument fault) := by
  intro o
  obtain ⟨⟨log, hevents, hconducts, hending⟩, -, -⟩ :=
    (Store.classified_operate surface d s hstore op).run hstore (Store.within_operate hstore op)
  have hclassified : op.Classified store.registry.get? log o.result := hending
  refine ⟨log, hevents, hconducts, hclassified, ?_, ?_⟩
  · intro hplain e source he hsource
    rw [he] at hclassified
    cases hclassified with
    | refused fault _ => cases hsource
    | @failed _ typeName source' _ hname hcall hfirst =>
        -- the first failure is an entry's: one of a row or a key, or the surface's own
        obtain rfl : source' = source := Option.some.inj hsource
        obtain ⟨entry, hentry, hfailure⟩ := List.exists_of_findSome?_eq_some hfirst
        rcases Operation.source?_of_failure? hfailure with hnone | ⟨x, rfl, hreply⟩
        · exact hnone
        · have hx : x ∈ log.filterMap Entry.exchange? := List.mem_filterMap.mpr ⟨_, hentry, rfl⟩
          obtain ⟨s', hanswer⟩ := hconducts.reply hx
          exact hplain x.call s' source' (hanswer.symm.trans hreply)
  · intro typeName hmem hnone
    generalize o.result = result at hclassified
    cases hclassified with
    | refused fault _ => exact ⟨fault, rfl⟩
    | succeeded _ haccepted _ => exact absurd hnone (haccepted.registered hmem)
    | failed haccepted _ _ _ => exact absurd hnone (haccepted.registered hmem)

end

/-- The database reports a truth value where a key should be, and then the rollback fails too. -/
theorem operate_classified_bad_key :
    let t : RecordType := ⟨"Note", none, "id", .int, [⟨"getTitle", .text, false⟩]⟩
    let l : Layout := ⟨"Note", none, "id", .int, [("title", .text)]⟩
    let store : Store := ⟨(Registry.empty.register t).2, ⟨500⟩, true⟩
    let op : Operation := .putAll [none, some ⟨l, .int 1, [.text "a"]⟩]
    let script : List ScriptReply := [.silent, ⟨none, [[.bool true]], 0⟩, ⟨some "lost", [], 0⟩]
    let o := (store.operate op).run.run .script .postgres store.registry script
    store.registry.Reachable ∧ Surface.script.Plain ∧ ∃ (log : List Entry) (source : Error),
      o.result = .error (.storage "put_all" "Note" (.records [.int 1]) source) ∧
      o.events = log.map Entry.event ∧
      Surface.script.Conducts script (log.filterMap Entry.exchange?) o.state ∧
      log.findSome? (op.failure? store.registry.get?) = some source ∧ source.source? = none := by
  intro t l store op script o
  have hstore : store.registry.Reachable := .register t .empty
  have hstorage : (o.result matches .error (.storage ..)) = true := by decide +kernel
  obtain ⟨log, hevents, hconducts, hending, honce, -⟩ :=
    operate_classified .script .postgres hstore op script
  have hclassified : op.Classified store.registry.get? log o.result := hending
  cases hresult : o.result with
  | ok reply => simp [hresult] at hstorage
  | error e =>
      rw [hresult] at hclassified hstorage
      cases hclassified with
      | refused fault _ => cases hstorage
      | @failed _ typeName source _ hname _ hfirst =>
          obtain rfl : "Note" = typeName := Option.some.inj hname
          exact ⟨hstore, Surface.script_plain, log, source, rfl, hevents, hconducts, hfirst,
            honce Surface.script_plain _ source hresult rfl⟩

end RecordStore
