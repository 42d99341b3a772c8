import RecordStore.Proofs.Failures

namespace RecordStore

open Store (Admits Takes)

/-!
# Hooks

A trigger is told of records about to be stored, of records that have been stored, and of keys that
were asked to be deleted. Taking these hooks out of a program changes neither its calls nor its
outcome, and without a trigger there are none. With one, an operation calls its hooks before its
first call and after its last, and the latter only if its effect is there to stay.
-/

/-- The rows that become records are told to whoever makes the records, not to a trigger. -/
def Notice.isHook : Notice → Bool
  | materializing _ _ => false
  | _ => true

def Event.isHook : Event → Bool
  | call _ => false
  | notice n => n.isHook

def Entry.isHook : Entry → Bool
  | exchange _ => false
  | notice n => n.isHook

@[simp] theorem Entry.isHook_event (e : Entry) : e.event.isHook = e.isHook := by
  cases e <;> rfl

theorem filterMap_exchange?_filter (log : List Entry) :
    (log.filter fun entry ↦ !entry.isHook).filterMap Entry.exchange?
      = log.filterMap Entry.exchange? := by
  rw [List.filterMap_filter]
  refine congrArg (List.filterMap · log) (funext fun entry ↦ ?_)
  cases entry with
  | exchange x => rfl
  | notice n => exact ite_self none

/-! ## Programs without hooks -/

namespace Program

variable {σ α β : Type}

/-- The program with its hooks taken out. -/
def quiet : Program α → Program α
  | done a => done a
  | call c next => call c fun reply ↦ (next reply).quiet
  | notify n next => if n.isHook then next.quiet else notify n next.quiet

theorem quiet_bind (p : Program α) (f : α → Program β) :
    (p.bind f).quiet = p.quiet.bind fun a ↦ (f a).quiet := by
  induction p with
  | done a => rfl
  | call c next ih => simp only [call_bind, quiet, ih]
  | notify n next ih =>
      simp only [notify_bind, quiet, ih]
      split <;> rfl

/-- Without its hooks a program runs as before, and only the hooks are missing from the events. -/
theorem run_quiet (surface : Surface σ) (d : Dialect) (p : Program α) (r : Registry) (s : σ) :
    let o := p.run surface d r s
    p.quiet.run surface d r s = { o with events := o.events.filter fun e ↦ !e.isHook } := by
  induction p generalizing r s with
  | done a => rfl
  | notify n next ih =>
      cases hhook : n.isHook <;> simp [quiet, run, hhook, ih, Event.isHook]
  | call c next ih =>
      simp only [quiet, run]
      split <;> simp [ih, Event.isHook]

theorem not_isHook_of_mem_play (surface : Surface σ) (d : Dialect) (p : Program α) (s : σ)
    {entry : Entry} (h : entry ∈ (p.quiet.play surface d s).log) : entry.isHook = false := by
  induction p generalizing s with
  | done a => cases h
  | notify n next ih =>
      cases hhook : n.isHook with
      | true =>
          rw [quiet, if_pos hhook] at h
          exact ih s h
      | false =>
          rw [quiet, if_neg (by simp [hhook])] at h
          rcases List.mem_cons.mp h with rfl | h
          · exact hhook
          · exact ih s h
  | call c next ih =>
      simp only [quiet, play] at h
      split at h
      · rcases List.mem_cons.mp h with rfl | h
        · rfl
        · exact ih _ _ h
      · exact ih _ s h

end Program

namespace Action

variable {σ α β : Type} {surface : Surface σ} {d : Dialect} {s : σ} {a : Action α}

def quiet (a : Action α) : Action α :=
  ExceptT.mk (Program.quiet a.run)

theorem quiet_bind (a : Action α) (f : α → Action β) :
    (a >>= f).quiet = a.quiet >>= fun x ↦ (f x).quiet := by
  have hcont : (fun outcome ↦ Program.quiet (ExceptT.bindCont f outcome))
      = ExceptT.bindCont fun x ↦ (f x).quiet := by
    funext outcome
    cases outcome <;> rfl
  have hrun : (a >>= f).run = a.run.bind (ExceptT.bindCont f) := rfl
  rw [quiet, hrun, Program.quiet_bind, hcont]
  rfl

theorem quiet_map (f : α → β) (a : Action α) : (f <$> a).quiet = f <$> a.quiet :=
  quiet_bind a fun x ↦ pure (f x)

theorem quiet_during (operation typeName : String) (subject : Subject) (a : Action α) :
    (a.during operation typeName subject).quiet = a.quiet.during operation typeName subject :=
  Program.quiet_bind a.run _

theorem quiet_tellAll {notices : List Notice} (h : ∀ n ∈ notices, n.isHook = true) :
    (tellAll notices).quiet = pure () := by
  induction notices with
  | nil => rfl
  | cons n notices ih =>
      obtain ⟨hhook, hrest⟩ := List.forall_mem_cons.mp h
      have htell : (tell n).quiet = pure () := by
        simp only [quiet, tell, ExceptT.run_mk, Program.quiet, if_pos hhook]
        rfl
      rw [tellAll, quiet_bind, htell, ih hrest]
      rfl

theorem quiet_announce (store : Store) {notices : List Notice}
    (h : ∀ n ∈ notices, n.isHook = true) : (store.announce notices).quiet = pure () := by
  unfold Store.announce
  split
  · exact quiet_tellAll h
  · rfl

/-- The action has no hooks. -/
def Silent (a : Action α) : Prop :=
  a.quiet = a

theorem silent_pure (x : α) : (pure x : Action α).Silent := rfl

theorem silent_throw (e : Error) : (throw e : Action α).Silent := rfl

theorem silent_ofExcept (e : Except Error α) : (ofExcept e).Silent := rfl

theorem silent_perform {k : ReplyKind} (c : Call Request k) : (perform c).Silent := rfl

theorem silent_tell {n : Notice} (h : n.isHook = false) : (tell n).Silent := by
  simp only [Silent, quiet, tell, ExceptT.run_mk, Program.quiet, h]
  rfl

theorem Silent.bind {f : α → Action β} (ha : a.Silent) (hf : ∀ x, (f x).Silent) :
    (a >>= f).Silent := by
  have hnext : (fun x ↦ (f x).quiet) = f := funext hf
  rw [Silent, quiet_bind, ha, hnext]

theorem Silent.map (ha : a.Silent) (f : α → β) : (f <$> a).Silent :=
  ha.bind fun x ↦ silent_pure (f x)

theorem Silent.discard (ha : a.Silent) : (discard a).Silent :=
  ha.map _

theorem Silent.attempt (ha : a.Silent) : a.attempt.Silent := by
  have hrun : Program.quiet a.run = a.run := ha
  unfold Silent Action.attempt quiet
  rw [ExceptT.run_mk, Program.quiet_bind, hrun]
  rfl

theorem Silent.during (ha : a.Silent) (operation typeName : String) (subject : Subject) :
    (a.during operation typeName subject).Silent := by
  rw [Silent, quiet_during, ha]

theorem Silent.not_isHook_of_mem_run (ha : a.Silent) (r : Registry) {e : Event}
    (he : e ∈ (Program.run surface d a.run r s).events) : e.isHook = false := by
  have hrun : Program.quiet a.run = a.run := ha
  rw [← hrun, Program.run_quiet] at he
  simpa using (List.mem_filter.mp he).2

theorem Silent.ensures (ha : a.Silent) :
    a.Ensures surface d s fun log _ _ ↦ ∀ entry ∈ log, entry.isHook = false := by
  intro entry hentry
  have hrun : Program.quiet a.run = a.run := ha
  rw [← hrun] at hentry
  exact Program.not_isHook_of_mem_play surface d a.run s hentry

end Action

/-! ## Operations without hooks -/

namespace Store

open RecordStore.Action

variable {α : Type} (store : Store) (l : Layout) (typeName : String)

theorem quiet_taking (operation : String) (keys : List Key) (f : Layout → Action α) :
    (store.taking typeName operation keys f).quiet
      = store.taking typeName operation keys fun l ↦ (f l).quiet := by
  unfold taking
  rw [quiet_bind]
  refine congrArg _ (funext fun l ↦ ?_)
  rw [quiet_bind]
  rfl

theorem silent_taking {operation : String} {keys : List Key} {f : Layout → Action α}
    (hf : ∀ l, (f l).Silent) : (store.taking typeName operation keys f).Silent := by
  have hbody : (fun l ↦ (f l).quiet) = f := funext hf
  rw [Silent, quiet_taking, hbody]

theorem silent_materialize (rows : List Row) : (materialize l rows).Silent := by
  induction rows with
  | nil => exact silent_pure []
  | cons row rows ih =>
      refine (silent_tell rfl).bind fun _ ↦ ?_
      exact (silent_ofExcept _).bind fun r ↦ ih.bind fun rest ↦ silent_pure _

theorem silent_fetchChunks (slices : List (List Key)) : (fetchChunks l slices).Silent := by
  induction slices with
  | nil => exact silent_pure []
  | cons slice slices ih =>
      refine (silent_perform _).bind fun rows ↦ (silent_materialize l rows).bind fun found ↦ ?_
      exact ih.bind fun rest ↦ silent_pure _

theorem silent_existingKeys (slices : List (List Key)) : (existingKeys l slices).Silent := by
  induction slices with
  | nil => exact silent_pure []
  | cons slice slices ih =>
      refine (silent_perform _).bind fun rows ↦ (silent_ofExcept _).bind fun found ↦ ?_
      exact ih.bind fun rest ↦ silent_pure _

theorem silent_writeRows (statement : Statement) (rows : List Row) :
    (writeRows l statement rows).Silent := by
  unfold writeRows
  split
  · exact silent_pure ()
  · exact (silent_perform _).discard

theorem silent_upsert (records : List Record) : (store.upsert l records).Silent := by
  rw [upsert_eq]
  refine (silent_existingKeys l _).bind fun existing ↦ ?_
  exact (silent_writeRows l _ _).bind fun _ ↦ silent_writeRows l _ _

theorem silent_inTransaction {a : Action Unit} (ha : a.Silent) : (inTransaction a).Silent := by
  refine (silent_perform _).bind fun _ ↦ ha.attempt.bind fun outcome ↦ ?_
  cases outcome with
  | ok _ => exact silent_perform _
  | error e => exact (silent_perform _).attempt.discard.bind fun _ ↦ silent_throw e

theorem silent_get (key : Key) : (store.get typeName key).Silent := by
  rw [get_eq]
  refine silent_taking store typeName fun l ↦ ?_
  exact ((silent_fetchChunks l _).during _ _ _).bind fun _ ↦ silent_pure _

theorem silent_getSome (keys : List Key) : (store.getSome typeName keys).Silent := by
  rw [getSome_eq]
  refine silent_taking store typeName fun l ↦ ?_
  split
  · exact silent_pure []
  · exact (silent_fetchChunks l _).during _ _ _

theorem silent_getAll : (store.getAll typeName).Silent := by
  rw [getAll_eq]
  refine silent_taking store typeName fun l ↦ Silent.during ?_ _ _ _
  exact (silent_perform _).bind fun rows ↦ silent_materialize l rows

theorem silent_getSize : (store.getSize typeName).Silent := by
  rw [getSize_eq]
  refine silent_taking store typeName fun l ↦ Silent.during ?_ _ _ _
  exact (silent_perform _).bind fun rows ↦ silent_ofExcept _

theorem silent_contains (key : Key) : (store.contains typeName key).Silent := by
  rw [contains_eq]
  refine silent_taking store typeName fun l ↦ Silent.during ?_ _ _ _
  exact (silent_perform _).bind fun _ ↦ silent_pure _

theorem silent_containsRecord (entry : Option Record) : (store.containsRecord entry).Silent := by
  cases entry with
  | none => exact silent_pure false
  | some r => exact silent_contains store r.typeName r.key

theorem silent_removeAll : (store.removeAll typeName).Silent := by
  rw [removeAll_eq]
  exact silent_taking store typeName fun l ↦ (silent_perform _).during _ _ _

theorem silent_getView (v : View) (key : Key) : (store.getView v key).Silent := by
  refine (silent_get store v.typeName key).bind fun found ↦ ?_
  cases found with
  | none => exact silent_pure none
  | some r => exact (silent_ofExcept _).bind fun _ ↦ silent_pure _

theorem silent_getAllView (v : View) : (store.getAllView v).Silent :=
  (silent_getAll store v.typeName).bind fun _ ↦ silent_ofExcept _

/-! ## A trigger makes no difference -/

def withoutTrigger (store : Store) : Store :=
  { store with hasTrigger := false }

theorem quiet_putAll (entries : List (Option Record)) :
    (store.putAll entries).quiet = store.withoutTrigger.putAll entries := by
  unfold putAll
  cases entries.reduceOption with
  | nil => rfl
  | cons first rest =>
      rw [quiet_bind]
      refine congrArg _ (funext fun l ↦ ?_)
      rw [quiet_bind]
      refine congrArg _ (funext fun _ ↦ ?_)
      have hbefore : ∀ n ∈ (first :: rest).map Notice.beforePersist, n.isHook = true := by
        simp [Notice.isHook]
      have hafter : ∀ n ∈ (first :: rest).map Notice.afterPersist, n.isHook = true := by
        simp [Notice.isHook]
      have hsilent : (inTransaction (store.upsert l (first :: rest))).Silent :=
        silent_inTransaction (silent_upsert store l _)
      rw [quiet_bind, quiet_announce store hbefore, quiet_bind, quiet_during, hsilent, quiet_bind,
        quiet_announce store hafter]
      rfl

theorem quiet_remove (keys : List Key) :
    (store.remove typeName keys).quiet = store.withoutTrigger.remove typeName keys := by
  have hhooks : ∀ n ∈ keys.map (Notice.deleted typeName), n.isHook = true := by
    simp [Notice.isHook]
  rw [remove_eq, remove_eq, quiet_taking]
  refine congrArg (store.taking typeName "remove" keys) (funext fun l ↦ ?_)
  split
  · rfl
  · rw [quiet_bind]
    refine congrArg₂ _ ((silent_perform _).during _ _ _) (funext fun count ↦ ?_)
    split
    · rw [quiet_bind, quiet_announce store hhooks]
      rfl
    · rfl

theorem quiet_removeRecords (entries : List (Option Record)) :
    (store.removeRecords entries).quiet = store.withoutTrigger.removeRecords entries := by
  unfold removeRecords
  cases entries.reduceOption with
  | nil => rfl
  | cons first rest =>
      cases hother : (first :: rest).find? (·.typeName != first.typeName) with
      | some other =>
          simp only [hother]
          rfl
      | none =>
          simp only [hother]
          exact quiet_remove store first.typeName _

/-- Taking the hooks out of an operation leaves what it does without a trigger. -/
theorem quiet_operate (op : Operation) :
    (store.operate op).quiet = store.withoutTrigger.operate op := by
  cases op with
  | put entry =>
      rw [operate, operate, quiet_map]
      refine congrArg (Reply.record <$> ·) ?_
      cases entry with
      | none => rfl
      | some r =>
          rw [put, put, quiet_bind, quiet_putAll]
          rfl
  | putAll entries =>
      rw [operate, operate, quiet_map, quiet_putAll]
  | remove typeName keys => rw [operate, operate, quiet_map, quiet_remove]
  | removeRecords entries => rw [operate, operate, quiet_map, quiet_removeRecords]
  | removeAll typeName => exact (silent_removeAll store typeName).map _
  | get typeName key => exact (silent_get store typeName key).map _
  | getSome typeName keys => exact (silent_getSome store typeName keys).map _
  | getAll typeName => exact (silent_getAll store typeName).map _
  | getSize typeName => exact (silent_getSize store typeName).map _
  | contains typeName key => exact (silent_contains store typeName key).map _
  | containsRecord entry => exact (silent_containsRecord store entry).map _

end Store

/-! ## Hooks around the calls -/

/-- The statement that deletes the keys has been carried out and has removed something. -/
def Removed (layout? : String → Option Layout) (d : Dialect) (typeName : String) (keys : List Key)
    (log : List Entry) : Prop :=
  ∃ l call n, layout? typeName = some l ∧ (Call.write false ⟨l, .delete, keys.length⟩
    (keys.map Key.toValue)).inDialect d = .ok call ∧ 0 < n ∧ .exchange ⟨call, .ok n⟩ ∈ log

namespace Operation

def hooksBefore : Operation → List Notice
  | put entry => entry.toList.map .beforePersist
  | putAll entries => entries.reduceOption.map .beforePersist
  | _ => []

def hooksAfter : Operation → List Notice
  | put entry => entry.toList.map .afterPersist
  | putAll entries => entries.reduceOption.map .afterPersist
  | remove typeName keys => keys.map (.deleted typeName)
  | removeRecords entries => entries.reduceOption.map fun r ↦ .deleted r.typeName r.key
  | _ => []

/-- What is there to stay: a transaction that has been committed, or a deletion that has removed
something. -/
def TookEffect (layout? : String → Option Layout) (d : Dialect) :
    Operation → List Entry → Prop
  | put _, log | putAll _, log => .exchange ⟨.commit, .ok ()⟩ ∈ log
  | remove typeName keys, log => Removed layout? d typeName keys log
  | removeRecords entries, log => ∃ typeName,
    (∀ r ∈ entries.reduceOption, r.typeName = typeName) ∧
      Removed layout? d typeName (entries.reduceOption.map Record.key) log
  | _, _ => False

/-- The log of an operation, and the rest of it without the hooks. An operation that is refused does
nothing. Otherwise the hooks stand before and after the rest, those after it exactly if the operation
has taken effect. Where there are hooks before it, the rest begins with the opening of a
transaction. -/
inductive Bracketed (layout? : String → Option Layout) (d : Dialect) (op : Operation) :
    List Entry → List Entry → Prop
  | refused : ¬ op.Accepted layout? → Bracketed layout? d op [] []
  | carriedOut {rest : List Entry} {after : List Notice} : op.Accepted layout? →
    (∀ entry ∈ rest, entry.isHook = false) →
    (op.hooksBefore ≠ [] → ∃ reply,
      rest.head? = some (.exchange ⟨.openTransaction .serializable, reply⟩)) →
    (op.TookEffect layout? d rest → after = op.hooksAfter) →
    (¬ op.TookEffect layout? d rest → after = []) →
    Bracketed layout? d op (op.hooksBefore.map .notice ++ rest ++ after.map .notice) rest

theorem isHook_hooksBefore (op : Operation) : ∀ n ∈ op.hooksBefore, n.isHook = true := by
  cases op <;> simp [hooksBefore, Notice.isHook]

theorem isHook_hooksAfter (op : Operation) : ∀ n ∈ op.hooksAfter, n.isHook = true := by
  cases op <;> simp [hooksAfter, Notice.isHook]

/-- Without the hooks the rest of the log is left. -/
theorem Bracketed.filter {layout? : String → Option Layout} {d : Dialect} {op : Operation}
    {log rest : List Entry} (h : op.Bracketed layout? d log rest) :
    log.filter (fun entry ↦ !entry.isHook) = rest := by
  have hhooks {notices : List Notice} (hnotices : ∀ n ∈ notices, n.isHook = true) :
      (notices.map Entry.notice).filter (fun entry ↦ !entry.isHook) = [] := by
    simpa [List.filter_eq_nil_iff, Entry.isHook] using hnotices
  cases h with
  | refused => rfl
  | @carriedOut _ after _ hrest _ htook hnot =>
      have hafter : ∀ n ∈ after, n.isHook = true := by
        by_cases heffect : op.TookEffect layout? d rest
        · rw [htook heffect]
          exact op.isHook_hooksAfter
        · rw [hnot heffect]
          exact fun n hn ↦ absurd hn List.not_mem_nil
      have hkept : rest.filter (fun entry ↦ !entry.isHook) = rest :=
        List.filter_eq_self.mpr fun entry hentry ↦ by simp [hrest entry hentry]
      rw [List.filter_append, List.filter_append, hhooks op.isHook_hooksBefore, hhooks hafter,
        hkept, List.nil_append, List.append_nil]

/-- An operation without hooks before it that makes a single call. -/
theorem Bracketed.of_call {layout? : String → Option Layout} {d : Dialect} {op : Operation}
    {x : Exchange} {after : List Notice} (hop : op.Accepted layout?) (hbefore : op.hooksBefore = [])
    (htook : op.TookEffect layout? d [.exchange x] → after = op.hooksAfter)
    (hnot : ¬ op.TookEffect layout? d [.exchange x] → after = []) :
    op.Bracketed layout? d (.exchange x :: after.map .notice) [.exchange x] := by
  have hsilent : ∀ entry ∈ [Entry.exchange x], entry.isHook = false := by
    simp [Entry.isHook]
  have hbracketed := Bracketed.carriedOut hop hsilent (fun h ↦ absurd hbefore h) htook hnot
  rwa [hbefore] at hbracketed

end Operation

section

variable {layout? : String → Option Layout} {d : Dialect} {l : Layout} {typeName : String}
  {keys : List Key}

theorem not_removed_nil : ¬ Removed layout? d typeName keys [] := by
  rintro ⟨l, call, n, -, -, -, hmem⟩
  cases hmem

/-- A log that consists of the deletion shows by its count whether anything has been removed. -/
theorem removed_singleton_iff {call : Call String .count} (hl : layout? typeName = some l)
    (hcall : (Call.write false ⟨l, .delete, keys.length⟩ (keys.map Key.toValue)).inDialect d
      = .ok call) (reply : Except Error Nat) :
    Removed layout? d typeName keys [.exchange ⟨call, reply⟩] ↔ ∃ n, reply = .ok n ∧ 0 < n := by
  constructor
  · rintro ⟨l', call', n, -, -, hpos, hmem⟩
    cases List.mem_singleton.mp hmem
    exact ⟨n, rfl, hpos⟩
  · rintro ⟨n, rfl, hpos⟩
    exact ⟨l, call, n, hl, hcall, hpos, List.mem_singleton_self _⟩

end

namespace Transacted

variable {plan : List Key → List Event} {log : List Exchange} {outcome : Except Error Unit}

theorem head? (h : Transacted plan log outcome) :
    ∃ reply, log.head? = some ⟨.openTransaction .serializable, reply⟩ := by
  cases h with
  | unopened e => exact ⟨.error e, rfl⟩
  | rolledBack reply => exact ⟨.ok (), rfl⟩
  | committed reply => exact ⟨.ok (), rfl⟩

/-- Where the plan holds no commit, a transaction is committed exactly if it succeeds. -/
theorem commit_mem_iff (hplan : ∀ existing, .call .commit ∉ plan existing)
    (h : Transacted plan log outcome) : ⟨.commit, .ok ()⟩ ∈ log ↔ outcome = .ok () := by
  -- what is carried out between opening and closing belongs to the plan
  have hmiddle {middle : List Exchange} {existing : List Key}
      (hevents : middle.map Exchange.event <+: plan existing) :
      (⟨.commit, .ok ()⟩ : Exchange) ∉ middle :=
    fun hmem ↦ hplan existing (hevents.subset (List.mem_map_of_mem hmem))
  cases h with
  | unopened e => simp
  | rolledBack reply hevents =>
      have hnone := hmiddle hevents
      simpa using hnone
  | committed reply hevents =>
      have hnone := hmiddle ⟨[], (List.append_nil _).trans hevents⟩
      simp [hnone, eq_comm]

end Transacted

namespace Store

open RecordStore.Action

theorem commit_not_mem_batchPlan (d : Dialect) (l : Layout) (slices : List (List Key))
    (records : List Record) (existing : List Key) :
    .call .commit ∉ batchPlan d l slices records existing := by
  have hbatch (c : Sql.Command) (rows : List Row) : .call .commit ∉ batchCall d c rows := by
    unfold batchCall
    split <;> simp
  simp [batchPlan, hbatch, keysQuery]

variable {σ α : Type} {surface : Surface σ} {d : Dialect} {s : σ} {store : Store}
  {op : Operation}

/-- An accepted operation that has nothing to tell and takes no effect. -/
theorem bracketed_silent {a : Action α} (ha : a.Silent) (hop : op.Accepted store.registry.get?)
    (hbefore : op.hooksBefore = [])
    (hnever : a.Ensures surface d s fun log _ _ ↦ ¬ op.TookEffect store.registry.get? d log) :
    a.Ensures surface d s fun log _ _ ↦
      ∃ rest, op.Bracketed store.registry.get? d log rest := by
  have hsilent : a.Ensures surface d s fun log _ _ ↦ ∀ entry ∈ log, entry.isHook = false :=
    ha.ensures
  have hbracketed := Operation.Bracketed.carriedOut hop hsilent
    (fun hhooks ↦ absurd hbefore hhooks) (fun h ↦ absurd h hnever) fun _ ↦ rfl
  rw [hbefore, List.map_nil, List.nil_append, List.append_nil] at hbracketed
  exact ⟨_, hbracketed⟩

section

variable (htrigger : store.hasTrigger = true)

include htrigger

theorem told_of_trigger (notices : List Notice) : store.told notices = notices :=
  if_pos htrigger

theorem bracketed_putAll {entries : List (Option Record)}
    (hop : op.Accepted store.registry.get?)
    (hbefore : op.hooksBefore = entries.reduceOption.map .beforePersist)
    (hafter : op.hooksAfter = entries.reduceOption.map .afterPersist)
    (heffect : ∀ log, op.TookEffect store.registry.get? d log ↔
      .exchange ⟨.commit, .ok ()⟩ ∈ log)
    (haccepted : (Operation.putAll entries).Accepted store.registry.get?) :
    (store.putAll entries).Ensures surface d s fun log _ _ ↦
      ∃ rest, op.Bracketed store.registry.get? d log rest := by
  by_cases hpresent : entries.reduceOption = []
  · rw [putAll_of_none hpresent]
    refine bracketed_silent (silent_pure []) hop (by rw [hbefore, hpresent]; rfl) ?_
    rw [ensures_pure, heffect]
    exact List.not_mem_nil
  obtain ⟨l, hadmits⟩ := haccepted.resolve_left hpresent
  rw [putAll_of_admits hadmits hpresent, ensures_bind, ensures_announce]
  simp only [Then]
  rw [ensures_bind, ensures_during]
  refine (ensures_transaction store l entries.reduceOption s).mono ?_
  rintro log outcome s' ⟨exchanges, rfl, htransacted⟩
  have hcommit : op.TookEffect store.registry.get? d (exchanges.map .exchange) ↔
      outcome = .ok () := by
    rw [heffect, ← htransacted.commit_mem_iff (commit_not_mem_batchPlan d l _ _)]
    simp
  have hsilent : ∀ entry ∈ exchanges.map Entry.exchange, entry.isHook = false := by
    simp [Entry.isHook]
  have hopened : ∃ reply, (exchanges.map Entry.exchange).head?
      = some (.exchange ⟨.openTransaction .serializable, reply⟩) := by
    obtain ⟨reply, hhead⟩ := htransacted.head?
    exact ⟨reply, by simp [hhead]⟩
  rw [told_of_trigger htrigger, ← hbefore]
  cases outcome with
  | error e =>
      refine ⟨exchanges.map .exchange, ?_⟩
      have hnot : ¬ op.TookEffect store.registry.get? d (exchanges.map .exchange) := by
        intro h
        cases hcommit.mp h
      have hbracketed := Operation.Bracketed.carriedOut hop hsilent (fun _ ↦ hopened)
        (fun h ↦ absurd h hnot) fun _ ↦ rfl
      simpa using hbracketed
  | ok _ =>
      simp only [Then, Except.mapError]
      rw [ensures_bind, ensures_announce]
      simp only [Then]
      rw [ensures_pure, List.append_nil, told_of_trigger htrigger, ← hafter,
        ← List.append_assoc]
      exact ⟨exchanges.map .exchange, .carriedOut hop hsilent (fun _ ↦ hopened) (fun _ ↦ rfl)
        fun h ↦ absurd (hcommit.mpr rfl) h⟩

theorem bracketed_remove {typeName : String} {keys : List Key}
    (hop : op.Accepted store.registry.get?) (hbefore : op.hooksBefore = [])
    (hafter : op.hooksAfter = keys.map (.deleted typeName))
    (heffect : ∀ log, op.TookEffect store.registry.get? d log ↔
      Removed store.registry.get? d typeName keys log)
    (haccepted : ∃ l, Takes store.registry.get? l typeName keys) :
    (store.remove typeName keys).Ensures surface d s fun log _ _ ↦
      ∃ rest, op.Bracketed store.registry.get? d log rest := by
  rw [remove_eq]
  refine ensures_taking (fun l htakes ↦ ?_) fun hnone _ ↦ absurd haccepted (not_exists.mpr hnone)
  split
  · refine bracketed_silent (silent_pure 0) hop hbefore ?_
    rw [ensures_pure, heffect]
    exact not_removed_nil
  · next hkeys =>
    have hcall := Call.inDialect_write d l .delete keys.length
      (fun _ ↦ (List.length_pos_iff.mpr hkeys).ne') false (keys.map Key.toValue)
    rw [ensures_bind, ensures_during, ensures_perform hcall]
    have hremoved (reply : Except Error Nat) :=
      (heffect _).trans (removed_singleton_iff htakes.registered hcall reply)
    cases (surface.answer (.write false ((l.sql? d .delete keys.length).getD "")
        (keys.map Key.toValue)) s).1 with
    | error e =>
        refine ⟨_, .of_call hop hbefore (fun h ↦ ?_) fun _ ↦ rfl⟩
        obtain ⟨n, hn, -⟩ := (hremoved _).mp h
        cases hn
    | ok n =>
        simp only [Then, Except.mapError]
        split
        · next hpos =>
          rw [ensures_bind, ensures_announce]
          simp only [Then]
          rw [ensures_pure, List.append_nil, told_of_trigger htrigger, ← hafter]
          exact ⟨_, .of_call hop hbefore (fun _ ↦ rfl) fun h ↦
            absurd ((hremoved _).mpr ⟨n, rfl, hpos⟩) h⟩
        · next hnone =>
          rw [ensures_pure, List.append_nil]
          refine ⟨_, .of_call hop hbefore (fun h ↦ ?_) fun _ ↦ rfl⟩
          obtain ⟨n', hn, hpos⟩ := (hremoved _).mp h
          cases hn
          exact absurd hpos hnone

theorem bracketed_removeRecords {entries : List (Option Record)}
    (hop : (Operation.removeRecords entries).Accepted store.registry.get?) :
    (store.removeRecords entries).Ensures surface d s fun log _ _ ↦
      ∃ rest, (Operation.removeRecords entries).Bracketed store.registry.get? d log rest := by
  by_cases hpresent : entries.reduceOption = []
  · rw [removeRecords_of_none store hpresent]
    refine bracketed_silent (silent_pure 0) hop rfl ?_
    rw [ensures_pure]
    rintro ⟨typeName, -, hremoved⟩
    exact not_removed_nil hremoved
  obtain ⟨typeName, l, hone, htakes⟩ := hop.resolve_left hpresent
  rw [removeRecords_of_one store typeName hpresent hone]
  refine bracketed_remove htrigger hop rfl ?_ (fun log ↦ ?_) ⟨l, htakes⟩
  · rw [Operation.hooksAfter, List.map_map]
    exact List.map_congr_left fun r hr ↦ by rw [hone r hr]; rfl
  · constructor
    · rintro ⟨typeName', hone', hremoved⟩
      obtain ⟨r, hr⟩ := List.exists_mem_of_ne_nil _ hpresent
      obtain rfl : typeName = typeName' := (hone r hr).symm.trans (hone' r hr)
      exact hremoved
    · exact fun hremoved ↦ ⟨typeName, hone, hremoved⟩

variable (surface d s) in
theorem bracketed_operate (hstore : store.registry.Reachable) (op : Operation) :
    (store.operate op).Ensures surface d s fun log _ _ ↦
      ∃ rest, op.Bracketed store.registry.get? d log rest := by
  by_cases hop : op.Accepted store.registry.get?
  · cases op with
    | put entry =>
        cases entry with
        | none => exact bracketed_silent ((silent_pure none).map _) hop rfl List.not_mem_nil
        | some r =>
            have hbatch := (Operation.accepted_put_some _ r).mp hop
            rw [operate_put_some, ensures_map]
            exact bracketed_putAll htrigger hop rfl rfl (fun _ ↦ .rfl) hbatch
    | putAll entries =>
        rw [operate, ensures_map]
        exact bracketed_putAll htrigger hop rfl rfl (fun _ ↦ .rfl) hop
    | remove typeName keys =>
        rw [operate, ensures_map]
        exact bracketed_remove htrigger hop rfl rfl (fun _ ↦ .rfl) hop
    | removeRecords entries =>
        rw [operate, ensures_map]
        exact bracketed_removeRecords htrigger hop
    | removeAll typeName =>
        exact bracketed_silent ((silent_removeAll store typeName).map _) hop rfl id
    | get typeName key =>
        exact bracketed_silent ((silent_get store typeName key).map _) hop rfl id
    | getSome typeName keys =>
        exact bracketed_silent ((silent_getSome store typeName keys).map _) hop rfl id
    | getAll typeName =>
        exact bracketed_silent ((silent_getAll store typeName).map _) hop rfl id
    | getSize typeName =>
        exact bracketed_silent ((silent_getSize store typeName).map _) hop rfl id
    | contains typeName key =>
        exact bracketed_silent ((silent_contains store typeName key).map _) hop rfl id
    | containsRecord entry =>
        exact bracketed_silent ((silent_containsRecord store entry).map _) hop rfl id
  · -- that nothing is done before a refusal is known from how operations fail
    refine (classified_operate surface d s hstore op).mono fun log outcome _ hclassified ↦ ?_
    cases hclassified with
    | refused fault => exact ⟨[], .refused hop⟩
    | succeeded a haccepted => exact absurd haccepted hop
    | failed haccepted => exact absurd haccepted hop

end

end Store

/-- Whatever the surface answers, with a trigger an operation makes the same calls as without one,
ends in the same state and has the same result. Its hooks stand around these calls: those of what is
about to be stored before a transaction is opened, those of what has been stored or was asked to be
deleted at the end, and only if that has been committed or has removed something. An operation that
is refused has no hooks, and neither has a read under a view. -/
theorem operate_hooks {σ : Type} (surface : Surface σ) (d : Dialect) {store : Store}
    (hstore : store.registry.Reachable) (htrigger : store.hasTrigger = true) (s : σ) :
    (∀ op : Operation,
      let o := (store.operate op).run.run surface d store.registry s
      let o' := (store.withoutTrigger.operate op).run.run surface d store.registry s
      o.result = o'.result ∧ o.registry = o'.registry ∧ o.state = o'.state ∧
      ∃ log rest, op.Bracketed store.registry.get? d log rest ∧
        surface.Conducts s (rest.filterMap Entry.exchange?) o.state ∧
        o.events = log.map Entry.event ∧ o'.events = rest.map Entry.event) ∧
    ∀ v : View,
      (∀ key, store.getView v key = store.withoutTrigger.getView v key ∧
        ∀ e ∈ ((store.getView v key).run.run surface d store.registry s).events,
          e.isHook = false) ∧
      store.getAllView v = store.withoutTrigger.getAllView v ∧
        ∀ e ∈ ((store.getAllView v).run.run surface d store.registry s).events,
          e.isHook = false := by
  refine ⟨fun op ↦ ?_, fun v ↦ ⟨fun key ↦ ⟨rfl, fun e he ↦ ?_⟩, rfl, fun e he ↦ ?_⟩⟩
  · have hquiet := Program.run_quiet surface d (store.operate op).run store.registry s
    have hsame : Program.quiet (store.operate op).run = (store.withoutTrigger.operate op).run :=
      store.quiet_operate op
    rw [hsame] at hquiet
    obtain ⟨⟨log, hevents, hconducts, rest, hbracketed⟩, -, -⟩ :=
      (Store.bracketed_operate surface d s htrigger hstore op).run hstore
        (Store.within_operate hstore op)
    intro o o'
    -- the run without a trigger is the run with one, less the hooks among its events
    have ho' : o' = { o with events := o.events.filter fun e ↦ !e.isHook } := hquiet
    have hrest : o'.events = rest.map Entry.event := by
      rw [ho', hevents, List.filter_map, ← hbracketed.filter]
      simp [Function.comp_def]
    rw [← filterMap_exchange?_filter, hbracketed.filter] at hconducts
    exact ⟨by rw [ho'], by rw [ho'], by rw [ho'], log, rest, hbracketed, hconducts, hevents, hrest⟩
  · exact (Store.silent_getView store v key).not_isHook_of_mem_run store.registry he
  · exact (Store.silent_getAllView store v).not_isHook_of_mem_run store.registry he

/-- Two keys are asked to be deleted, one of them twice, and the database reports one deletion. -/
theorem operate_hooks_repeated_key :
    let t : RecordType := ⟨"Note", none, "id", .int, [⟨"getTitle", .text, false⟩]⟩
    let store : Store := ⟨(Registry.empty.register t).2, ⟨2⟩, true⟩
    let op : Operation := .remove "Note" [.int 1, .int 1, .int 2]
    let script : List ScriptReply := [⟨none, [], 1⟩]
    let o := (store.operate op).run.run .script .sqlite store.registry script
    let o' := (store.withoutTrigger.operate op).run.run .script .sqlite store.registry script
    store.registry.Reachable ∧ store.hasTrigger = true ∧ o.result = o'.result ∧
      o.state = o'.state ∧ o.events = o'.events ++ [.notice (.deleted "Note" (.int 1)),
        .notice (.deleted "Note" (.int 1)), .notice (.deleted "Note" (.int 2))] := by
  intro t store op script o o'
  have hstore : store.registry.Reachable := .register t .empty
  have hcount : o.events.countP Event.isHook = 3 := by decide +kernel
  obtain ⟨hoperate, -⟩ := operate_hooks .script .sqlite hstore rfl script
  obtain ⟨hresult, -, hstate, log, rest, hbracketed, -, hevents, hrest⟩ := hoperate op
  refine ⟨hstore, rfl, hresult, hstate, ?_⟩
  change o.events = _ at hevents
  change o'.events = _ at hrest
  cases hbracketed with
  | refused =>
      rw [hevents] at hcount
      cases hcount
  | @carriedOut _ after _ hsilent _ htook hnot =>
      by_cases heffect : op.TookEffect store.registry.get? .sqlite rest
      · rw [hevents, hrest, htook heffect]
        simp [Operation.hooksBefore, Operation.hooksAfter, op, Entry.event]
      · have hnone : o.events.countP Event.isHook = 0 := by
          rw [hevents, hnot heffect, List.countP_eq_zero]
          simpa [Operation.hooksBefore, op] using hsilent
        omega

end RecordStore
