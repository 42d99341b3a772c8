import RecordStore.Proofs.KeyedMap
import RecordStore.Proofs.Sql.Template
import RecordStore.Surface.Script

namespace RecordStore

/-!
# One store in two dialects

Two stores that differ in nothing but the dialect of their surfaces go in lock step. Whatever they
are asked, they make the same calls and give the same notices, and they come to the same results and
the same states, as long as their surfaces answer the two texts of a statement alike. Only the texts
of the statements differ.
-/

/-! ## Calls that differ in their texts -/

/-- The two dialects have these texts for one statement of a registered layout, over one number of
keys. -/
def Translates (layout? : String → Option Layout) (d d' : Dialect) (text text' : String) : Prop :=
  ∃ l s count, layout? l.typeName = some l ∧ l.text d s count = .ok (some text) ∧
    l.text d' s count = .ok (some text')

section

variable (layout? : String → Option Layout) (d d' : Dialect)

/-- Calls that are the same but for their texts, which translate each other. -/
inductive Call.Alike : {k : ReplyKind} → Call String k → Call String k → Prop
  | query {inTransaction : Bool} {text text' : String} {params : List Value}
      {shape : List FieldType} : Translates layout? d d' text text' →
    Alike (.query inTransaction text params shape) (.query inTransaction text' params shape)
  | write {inTransaction : Bool} {text text' : String} {params : List Value} :
    Translates layout? d d' text text' →
    Alike (.write inTransaction text params) (.write inTransaction text' params)
  | batchWrite {inTransaction : Bool} {text text' : String} {rows : List Row} :
    Translates layout? d d' text text' →
    Alike (.batchWrite inTransaction text rows) (.batchWrite inTransaction text' rows)
  | openTransaction {isolation : Isolation} :
    Alike (.openTransaction isolation) (.openTransaction isolation)
  | commit : Alike .commit .commit
  | rollback : Alike .rollback .rollback

inductive Event.Alike : Event → Event → Prop
  | call {k : ReplyKind} {c c' : Call String k} : c.Alike layout? d d' c' →
    Alike (.call c) (.call c')
  | notice (n : Notice) : Alike (.notice n) (.notice n)

end

variable {σ α : Type} {d d' : Dialect} {layout? : String → Option Layout}

section

variable (d d')

/-- A statement is refused in both dialects, or spelled in both with texts that translate each
other. -/
theorem Layout.spelled_alike {τ : Type} (make : String → τ) {l : Layout} {s : Statement}
    {count : Nat} (hl : layout? l.typeName = some l) (hcommand : (l.command? s count).isSome) :
    let spelled (d : Dialect) :=
      Error.ofArgument ((l.text d s count).map fun sql ↦ make (sql.getD ""))
    (∃ text text', spelled d = .ok (make text) ∧ spelled d' = .ok (make text') ∧
      Translates layout? d d' text text') ∨
    ∃ e, spelled d = .error e ∧ spelled d' = .error e := by
  intro spelled
  by_cases hcount : s.isSized = true ∧ count = 0
  · have hrefused (d : Dialect) : spelled d
        = .error (.illegalArgument (.noKeys s.name l.typeName)) := by
      simp only [spelled, text, if_pos hcount]
      rfl
    exact .inr ⟨_, hrefused d, hrefused d'⟩
  · obtain ⟨c, hc⟩ := Option.isSome_iff_exists.mp hcommand
    have htext (d : Dialect) : l.text d s count = .ok (some (c.render d)) := by
      rw [text, if_neg hcount, sql?, hc, Option.map_some]
    have hspelled (d : Dialect) : spelled d = .ok (make (c.render d)) := by
      simp only [spelled, htext]
      rfl
    exact .inl ⟨_, _, hspelled d, hspelled d', l, s, count, hl, htext d, htext d'⟩

/-- A request is refused in both dialects, or spelled in both as calls that are alike. -/
theorem Call.alike_inDialect {r : Registry} {k : ReplyKind} {c : Call Request k}
    (hc : ∀ request ∈ c.statement?, r.Knows request) :
    (∃ x x', c.inDialect d = .ok x ∧ c.inDialect d' = .ok x' ∧ x.Alike r.get? d d' x') ∨
    ∃ e, c.inDialect d = .error e ∧ c.inDialect d' = .error e := by
  cases c with
  | query inTransaction request params shape =>
      apply (Layout.spelled_alike d d' (fun sql ↦ query inTransaction sql params shape)
        (hc _ rfl).registered (hc _ rfl).worded).imp_left
      rintro ⟨text, text', htext, htext', h⟩
      exact ⟨_, _, htext, htext', .query h⟩
  | write inTransaction request params =>
      apply (Layout.spelled_alike d d' (fun sql ↦ write inTransaction sql params)
        (hc _ rfl).registered (hc _ rfl).worded).imp_left
      rintro ⟨text, text', htext, htext', h⟩
      exact ⟨_, _, htext, htext', .write h⟩
  | batchWrite inTransaction request rows =>
      apply (Layout.spelled_alike d d' (fun sql ↦ batchWrite inTransaction sql rows)
        (hc _ rfl).registered (hc _ rfl).worded).imp_left
      rintro ⟨text, text', htext, htext', h⟩
      exact ⟨_, _, htext, htext', .batchWrite h⟩
  | openTransaction isolation => exact .inl ⟨_, _, rfl, rfl, .openTransaction⟩
  | commit => exact .inl ⟨_, _, rfl, rfl, .commit⟩
  | rollback => exact .inl ⟨_, _, rfl, rfl, .rollback⟩

end

/-! ## Surfaces that answer alike -/

/-- From every state the surfaces answer calls that are alike with one reply, and go on to one
state. -/
def Surface.Agree (d d' : Dialect) (surface surface' : Surface σ) : Prop :=
  ∀ {layout? : String → Option Layout} {k : ReplyKind} {c c' : Call String k},
    c.Alike layout? d d' c' → ∀ s, surface'.answer c' s = surface.answer c s

theorem Surface.agree_script : Surface.script.Agree d d' Surface.script := by
  intro layout? k c c' h replies
  cases h <;> cases replies <;> rfl

/-- The two texts are read as one command. -/
theorem Translates.exists_command {text text' : String} (h : Translates layout? d d' text text') :
    ∃ c, Sql.Command.read? d text = some c ∧ Sql.Command.read? d' text' = some c := by
  obtain ⟨l, s, count, -, htext, htext'⟩ := h
  by_cases hcount : s.isSized = true ∧ count = 0
  · rw [Layout.text, if_pos hcount] at htext
    cases htext
  · have hsized : s.isSized = true → count ≠ 0 := fun hsized hzero ↦ hcount ⟨hsized, hzero⟩
    rw [Layout.text, if_neg hcount, Except.ok.injEq] at htext htext'
    obtain ⟨c, hc, hread⟩ := Layout.read?_sql? hsized htext
    obtain ⟨c', hc', hread'⟩ := Layout.read?_sql? hsized htext'
    obtain rfl : c = c' := Option.some.inj (hc.symm.trans hc')
    exact ⟨c, hread, hread'⟩

theorem Surface.agree_tables (arrangement : Arrangement) (faults : Nat → Option Fault) :
    (Surface.tables d arrangement faults).Agree d d' (Surface.tables d' arrangement faults) := by
  intro layout? k c c' h s
  cases h with
  | query h | write h | batchWrite h =>
      obtain ⟨command, hread, hread'⟩ := h.exists_command
      simp only [Surface.tables, TableState.answer, hread, hread']
  | openTransaction | commit | rollback => rfl

/-! ## Programs in lock step -/

variable {surface surface' : Surface σ}

/-- Alike calls get one reply, so both plays go on with one and the same rest of the program. -/
theorem Program.play_alike (hagree : surface.Agree d d' surface') {r : Registry} {p : Program α}
    (hp : p.Within r) (s : σ) :
    List.Forall₂ (Event.Alike r.get? d d') ((p.play surface d s).log.map Entry.event)
        ((p.play surface' d' s).log.map Entry.event) ∧
      (p.play surface' d' s).result = (p.play surface d s).result ∧
      (p.play surface' d' s).state = (p.play surface d s).state := by
  induction p generalizing s with
  | done a => exact ⟨.nil, rfl, rfl⟩
  | notify n next ih =>
      obtain ⟨hevents, hrest⟩ := ih hp s
      exact ⟨.cons (.notice n) hevents, hrest⟩
  | call c next ih =>
      obtain ⟨hc, hnext⟩ := hp
      obtain ⟨x, x', hx, hx', halike⟩ | ⟨e, he, he'⟩ := c.alike_inDialect d d' hc
      · obtain ⟨hevents, hrest⟩ :=
          ih (surface.answer x s).1 (hnext _) (surface.answer x s).2
        simp only [play, hx, hx', hagree halike s, List.map_cons]
        exact ⟨.cons (.call halike) hevents, hrest⟩
      · simp only [play, he, he']
        exact ih (.error e) (hnext _) s

/-! ## Outcomes -/

/-- Outcomes that only differ in texts, also in those that the registries remember. -/
structure Outcome.Alike (d d' : Dialect) (o o' : Outcome σ α) : Prop where
  events : List.Forall₂ (Event.Alike o.registry.get? d d') o.events o'.events
  result : o'.result = o.result
  layouts : o'.registry.layouts = o.registry.layouts
  state : o'.state = o.state

namespace Registry

variable {r r' : Registry}

theorem register_of_layouts (h : r'.layouts = r.layouts) (t : RecordType) :
    (r'.register t).1 = (r.register t).1 ∧
      (r'.register t).2.layouts = (r.register t).2.layouts := by
  unfold register
  rw [get?_of_layouts h]
  cases r.get? t.name with
  | some l => exact ⟨rfl, h⟩
  | none =>
      cases Layout.resolve t with
      | ok l => exact ⟨rfl, congrArg (Ordered.insert t.name l) h⟩
      | error fault => exact ⟨rfl, h⟩

end Registry

theorem Program.run_alike (hagree : surface.Agree d d' surface') {r r' : Registry}
    (hr : r.Reachable) (hr' : r'.Reachable) (hlayouts : r'.layouts = r.layouts) {p : Program α}
    (hp : p.Within r) (s : σ) :
    let o := p.run surface d r s
    let o' := p.run surface' d' r' s
    o.Alike d d' o' ∧ o.registry.Reachable ∧ o'.registry.Reachable := by
  intro o o'
  have hp' : p.Within r' := hp.of_get? (Registry.get?_of_layouts hlayouts)
  obtain ⟨hevents, hresult, hstate, hreachable, hget⟩ := run_eq_play surface d hr hp s
  obtain ⟨hevents', hresult', hstate', hreachable', -⟩ := run_eq_play surface' d' hr' hp' s
  obtain ⟨halike, hsame, hstay⟩ := play_alike hagree hp s
  refine ⟨⟨?_, ?_, ?_, ?_⟩, hreachable, hreachable'⟩
  · rw [hget, hevents, hevents']
    exact halike
  · rw [hresult, hresult', hsame]
  · rw [layouts_run, layouts_run, hlayouts]
  · rw [hstate, hstate', hstay]

/-! ## Stores in lock step -/

/-- What a store can be asked for: to register a type or a view, an operation, or records through a
view. -/
inductive Demand
  | register (t : RecordType)
  | registerView (v : View)
  | operate (op : Operation)
  | getView (v : View) (key : Key)
  | getAllView (v : View)

inductive Delivery
  | registered (outcome : Except ArgumentFault Layout)
  | replied (outcome : Except Error Reply)

/-- The stores have the same types, options and trigger, whatever their statement books remember. -/
structure Store.Alike (store store' : Store) : Prop where
  reachable : store.registry.Reachable
  reachable' : store'.registry.Reachable
  layouts : store'.registry.layouts = store.registry.layouts
  options : store'.options = store.options
  hasTrigger : store'.hasTrigger = store.hasTrigger

namespace Store

/-- The store with the registry that an outcome has left. -/
def next (store : Store) (o : Outcome σ α) : Store :=
  { store with registry := o.registry }

def carryOut (surface : Surface σ) (d : Dialect) (store : Store) (a : Action Reply) (s : σ) :
    Outcome σ Delivery :=
  let o := a.run.run surface d store.registry s
  ⟨o.events, .replied o.result, o.registry, o.state⟩

def deliver (surface : Surface σ) (d : Dialect) (store : Store) (s : σ) :
    Demand → Outcome σ Delivery
  | .register t =>
    let (outcome, r) := store.registry.register t
    ⟨[], .registered outcome, r, s⟩
  | .registerView v =>
    let (outcome, r) := store.registry.registerView v
    ⟨[], .registered outcome, r, s⟩
  | .operate op => store.carryOut surface d (store.operate op) s
  | .getView v key => store.carryOut surface d (Reply.record <$> store.getView v key) s
  | .getAllView v => store.carryOut surface d (Reply.records <$> store.getAllView v) s

/-- The outcomes of one demand after another, each carried out on what the one before has left. -/
def deliverAll (surface : Surface σ) (d : Dialect) (store : Store) :
    List Demand → σ → List (Outcome σ Delivery)
  | [], _ => []
  | q :: demands, s =>
    let o := store.deliver surface d s q
    o :: (store.next o).deliverAll surface d demands o.state

variable {store store' : Store}

theorem within_getView (hstore : store.registry.Reachable) (v : View) (key : Key) :
    (store.getView v key).Within store.registry := by
  apply (within_get hstore v.typeName key).bind
  intro found
  cases found with
  | none => exact Action.asks_pure none
  | some r => exact (Action.asks_ofExcept _).bind fun r ↦ Action.asks_pure (some r)

theorem within_getAllView (hstore : store.registry.Reachable) (v : View) :
    (store.getAllView v).Within store.registry := by
  apply (within_getAll hstore v.typeName).bind
  intro found
  exact Action.asks_ofExcept _

namespace Alike

/-- Stores that are alike are one store up to its statement books. -/
theorem exists_books (h : store.Alike store') :
    ∃ books, store' = { store with registry := { store.registry with books := books } } := by
  obtain ⟨⟨layouts, books⟩, options, hasTrigger⟩ := store'
  obtain ⟨-, -, rfl, rfl, rfl⟩ := h
  exact ⟨books, rfl⟩

/-! The stores stand for the same actions: none looks at what a statement book remembers. -/

theorem operate (h : store.Alike store') (op : Operation) :
    store'.operate op = store.operate op := by
  obtain ⟨books, rfl⟩ := h.exists_books
  cases op <;> rfl

theorem getView (h : store.Alike store') (v : View) (key : Key) :
    store'.getView v key = store.getView v key := by
  obtain ⟨books, rfl⟩ := h.exists_books
  rfl

theorem getAllView (h : store.Alike store') (v : View) :
    store'.getAllView v = store.getAllView v := by
  obtain ⟨books, rfl⟩ := h.exists_books
  rfl

theorem register (h : store.Alike store') (t : RecordType) (s : σ) :
    let o : Outcome σ Delivery :=
      ⟨[], .registered (store.registry.register t).1, (store.registry.register t).2, s⟩
    let o' : Outcome σ Delivery :=
      ⟨[], .registered (store'.registry.register t).1, (store'.registry.register t).2, s⟩
    o.Alike d d' o' ∧ (store.next o).Alike (store'.next o') := by
  obtain ⟨hsame, hlayouts⟩ := Registry.register_of_layouts h.layouts t
  exact ⟨⟨.nil, congrArg Delivery.registered hsame, hlayouts, rfl⟩,
    .register t h.reachable, .register t h.reachable', hlayouts, h.options, h.hasTrigger⟩

theorem carryOut (h : store.Alike store') (hagree : surface.Agree d d' surface')
    {a : Action Reply} (ha : a.Within store.registry) (s : σ) :
    let o := store.carryOut surface d a s
    let o' := store'.carryOut surface' d' a s
    o.Alike d d' o' ∧ (store.next o).Alike (store'.next o') := by
  obtain ⟨halike, hr, hr'⟩ := Program.run_alike hagree h.reachable h.reachable' h.layouts ha s
  exact ⟨⟨halike.events, congrArg Delivery.replied halike.result, halike.layouts, halike.state⟩,
    hr, hr', halike.layouts, h.options, h.hasTrigger⟩

/-- One demand: its outcomes are alike, and so are the stores that are left. -/
theorem deliver (h : store.Alike store') (hagree : surface.Agree d d' surface') (s : σ)
    (q : Demand) :
    let o := store.deliver surface d s q
    let o' := store'.deliver surface' d' s q
    o.Alike d d' o' ∧ (store.next o).Alike (store'.next o') := by
  cases q with
  | register t => exact h.register t s
  | registerView v =>
      simp only [Store.deliver, Registry.registerView]
      split
      · exact h.register v.declared s
      · exact ⟨⟨.nil, rfl, h.layouts, rfl⟩, h⟩
  | operate op =>
      simp only [Store.deliver, h.operate op]
      exact h.carryOut hagree (within_operate h.reachable op) s
  | getView v key =>
      simp only [Store.deliver, h.getView v key]
      exact h.carryOut hagree ((within_getView h.reachable v key).map _) s
  | getAllView v =>
      simp only [Store.deliver, h.getAllView v]
      exact h.carryOut hagree ((within_getAllView h.reachable v).map _) s

theorem deliverAll (h : store.Alike store') (hagree : surface.Agree d d' surface')
    (demands : List Demand) (s : σ) :
    List.Forall₂ (Outcome.Alike d d') (store.deliverAll surface d demands s)
      (store'.deliverAll surface' d' demands s) := by
  induction demands generalizing store store' s with
  | nil => exact .nil
  | cons q demands ih =>
      obtain ⟨halike, hnext⟩ := h.deliver hagree s q
      refine .cons halike ?_
      rw [halike.state]
      exact ih hnext _

end Alike

end Store

/-- Whatever two stores are asked for that differ only in the dialect of their surfaces, they come
to the same results and make the same calls and notices but for the texts, which are the texts of
one statement in the two dialects. So it is on any surfaces that answer alike with whatever replies,
such as the same script, and keyed tables on which the same calls fail. -/
theorem deliverAll_in_two_dialects (d d' : Dialect) {store store' : Store}
    (h : store.Alike store') (demands : List Demand) :
    (∀ {σ : Type} {surface surface' : Surface σ}, surface.Agree d d' surface' → ∀ s : σ,
      List.Forall₂ (Outcome.Alike d d') (store.deliverAll surface d demands s)
        (store'.deliverAll surface' d' demands s)) ∧
    (∀ replies : List ScriptReply, List.Forall₂ (Outcome.Alike d d')
      (store.deliverAll Surface.script d demands replies)
      (store'.deliverAll Surface.script d' demands replies)) ∧
    ∀ (arrangement : Arrangement) (faults : Nat → Option Fault) (s : TableState),
      List.Forall₂ (Outcome.Alike d d')
        (store.deliverAll (Surface.tables d arrangement faults) d demands s)
        (store'.deliverAll (Surface.tables d' arrangement faults) d' demands s) :=
  ⟨fun hagree ↦ h.deliverAll hagree demands, h.deliverAll Surface.agree_script demands,
    fun arrangement faults ↦ h.deliverAll (Surface.agree_tables arrangement faults) demands⟩

/-- One of the stores has already spelled a statement in a third dialect. The second question of the
last but one demand fails. -/
theorem deliverAll_in_two_dialects_note :
    let t : RecordType := ⟨"Note", none, "id", .int, [⟨"getTitle", .text, false⟩]⟩
    let l : Layout := ⟨"Note", none, "id", .int, [("title", .text)]⟩
    let r := (Registry.empty.register t).2
    let store : Store := ⟨r, ⟨2⟩, true⟩
    let store' : Store := ⟨(r.statement l .mysql .selectSome 2).2, ⟨2⟩, true⟩
    let note (k : Int64) (title : String) : Record := ⟨l, .int k, [.text title]⟩
    let demands : List Demand := [.registerView ⟨"Memo", t⟩,
      .operate (.putAll [some (note 1 "a"), some (note 2 "b")]),
      .getAllView ⟨"Note", t⟩, .operate (.getSome "Note" [.int 1, .int 2, .int 3]),
      .operate (.remove "Note" [.int 1])]
    let done : ScriptReply := .silent
    let replies : List ScriptReply := [done, { done with rows := [[.i64 1]] }, done, done, done,
      { done with rows := [[.i64 1, .text "a"]] }, done, { done with failure := some "lost" },
      { done with count := 1 }]
    let outcomes := store.deliverAll Surface.script .postgres demands replies
    let outcomes' := store'.deliverAll Surface.script .mssql demands replies
    store.Alike store' ∧ List.Forall₂ (Outcome.Alike .postgres .mssql) outcomes outcomes' ∧
      outcomes.map (·.events.length) = [0, 9, 2, 2, 2] ∧
      (outcomes.flatMap (·.events.filterMap Event.statement?)).getLast?
        = some "DELETE FROM \"Note\" WHERE \"id\" IN ($1)" ∧
      (outcomes'.flatMap (·.events.filterMap Event.statement?)).getLast?
        = some "DELETE FROM [Note] WHERE [id] IN (@P1)" := by
  intro t l r store store' note demands done replies outcomes outcomes'
  have hregistered : r.get? "Note" = some l := Registry.get?_register_self rfl (by decide +kernel)
  have hr : r.Reachable := .register t .empty
  have halike : store.Alike store' := ⟨hr, .statement .mysql .selectSome 2 hregistered hr,
    r.layouts_statement l .mysql .selectSome 2, rfl, rfl⟩
  have hboth := (deliverAll_in_two_dialects .postgres .mssql halike demands).2.1 replies
  exact ⟨halike, hboth, by decide +kernel, by decide +kernel, by decide +kernel⟩

end RecordStore
