import RecordStore.Proofs.Identity
import RecordStore.Proofs.Text.ByteOrder
import RecordStore.Surface.Script

namespace RecordStore

/-!
# Histories of a registry

A registry is asked one thing after another, and every answer is told from the types that have been
declared before: a name stands for the first of its declarations that resolves, whatever was
declared, looked up or spelled in between. The statement books are opened late and never dropped,
yet they always spell the statements of the layout that their name stands for. A store over the
registry stores and reads records under this layout, and sends the statements of no other.
-/

namespace Registry

/-! ## The first valid declaration -/

def firstValid (declared : List RecordType) (typeName : String) : Option Layout :=
  declared.findSome? fun t ↦ if t.name = typeName then (Layout.resolve t).toOption else none

section

variable {declared : List RecordType} {t : RecordType}

theorem exists_of_firstValid {typeName : String} {l : Layout}
    (h : firstValid declared typeName = some l) :
    ∃ t ∈ declared, t.name = typeName ∧ Layout.resolve t = .ok l := by
  obtain ⟨t, ht, hsome⟩ := List.exists_of_findSome?_eq_some h
  by_cases hname : t.name = typeName
  · rw [if_pos hname] at hsome
    exact ⟨t, ht, hname, toOption_eq_some.mp hsome⟩
  · rw [if_neg hname] at hsome
    cases hsome

theorem firstValid_append (typeName : String) :
    firstValid (declared ++ [t]) typeName = (firstValid declared typeName).or
      (if t.name = typeName then (Layout.resolve t).toOption else none) := by
  simp [firstValid, List.findSome?_append]

/-- A name that stands for a layout keeps it. -/
theorem firstValid_append_of_known {l : Layout} (h : firstValid declared t.name = some l) :
    firstValid (declared ++ [t]) = firstValid declared := by
  funext typeName
  rw [firstValid_append]
  by_cases hname : t.name = typeName
  · rw [← hname, h, Option.some_or]
  · rw [if_neg hname, Option.or_none]

theorem firstValid_append_of_refused {fault : ArgumentFault}
    (h : Layout.resolve t = .error fault) :
    firstValid (declared ++ [t]) = firstValid declared := by
  funext typeName
  rw [firstValid_append, h, Except.toOption, ite_self, Option.or_none]

end

/-! ## Asking a registry -/

/-- What a registry is asked: by its callers, or by a store that carries out an operation over it on
a surface with states of type `σ`. -/
inductive Ask (σ : Type)
  | register (t : RecordType)
  | get (typeName : String)
  | require (typeName operation : String)
  | typeNames
  | book (typeName : String) (d : Dialect)
  | statement (typeName : String) (d : Dialect) (s : Statement) (count : UInt64)
  | operate (surface : Surface σ) (d : Dialect) (options : StoreOptions) (hasTrigger : Bool)
      (op : Operation) (state : σ)

inductive Answer
  | registered (outcome : Except ArgumentFault Layout)
  | found (l : Option Layout)
  | required (outcome : Except ArgumentFault Layout)
  | names (names : List String)
  | book (b : Option StatementBook)
  | text (outcome : Option (Except ArgumentFault (Option String)))
  | sent (statements : List String) (found : List Record)

variable {σ : Type}

def Ask.declared : Ask σ → List RecordType
  | register t => [t]
  | _ => []

/-- A book and its texts are asked for with the layout that the name stands for. -/
def ask (r : Registry) : Ask σ → Answer × Registry
  | .register t =>
    let (outcome, r) := r.register t
    (.registered outcome, r)
  | .get typeName => (.found (r.get? typeName), r)
  | .require typeName operation => (.required (r.require typeName operation), r)
  | .typeNames => (.names r.typeNames, r)
  | .book typeName d =>
    match r.get? typeName with
    | some l =>
      let (b, r) := r.book l d
      (.book (some b), r)
    | none => (.book none, r)
  | .statement typeName d s count =>
    match r.get? typeName with
    | some l =>
      let (text, r) := r.request l d s count
      (.text (some text), r)
    | none => (.text none, r)
  | .operate surface d options hasTrigger op state =>
    let o := (Store.operate ⟨r, options, hasTrigger⟩ op).run.run surface d r state
    (.sent (o.events.filterMap Event.statement?) ((o.result.toOption.map Reply.found).getD []),
      o.registry)

def askAll (r : Registry) : List (Ask σ) → List Answer × Registry
  | [] => ([], r)
  | a :: asks =>
    let (answer, r) := r.ask a
    let (answers, r) := r.askAll asks
    (answer :: answers, r)

/-- The answers that the declarations before an ask call for. An operation sends its own statements,
with the texts of the layout that it is for, and reads records under this layout. -/
inductive Tells (declared : List RecordType) : Ask σ → Answer → Prop
  | known {t : RecordType} {l : Layout} : firstValid declared t.name = some l →
    Tells declared (.register t) (.registered (.ok l))
  | new {t : RecordType} : firstValid declared t.name = none →
    Tells declared (.register t) (.registered (Layout.resolve t))
  | get {typeName : String} : Tells declared (.get typeName) (.found (firstValid declared typeName))
  | require {typeName operation : String} {l : Layout} : firstValid declared typeName = some l →
    Tells declared (.require typeName operation) (.required (.ok l))
  | requireNone {typeName operation : String} : firstValid declared typeName = none →
    Tells declared (.require typeName operation)
      (.required (.error (.unregistered operation typeName)))
  | typeNames {names : List String} : Text.InByteOrder names →
    (∀ typeName, typeName ∈ names ↔ (firstValid declared typeName).isSome) →
    Tells declared .typeNames (.names names)
  | book {typeName : String} {d : Dialect} {l : Layout} {b : StatementBook} :
    firstValid declared typeName = some l → b.layout = l → b.dialect = d →
    (∀ s count, (b.statement s count).1 = l.text d s count) →
    Tells declared (.book typeName d) (.book (some b))
  | bookNone {typeName : String} {d : Dialect} : firstValid declared typeName = none →
    Tells declared (.book typeName d) (.book none)
  | statement {typeName : String} {d : Dialect} {s : Statement} {count : UInt64} {l : Layout} :
    firstValid declared typeName = some l →
    Tells declared (.statement typeName d s count) (.text (some (l.requested d s count)))
  | statementNone {typeName : String} {d : Dialect} {s : Statement} {count : UInt64} :
    firstValid declared typeName = none →
    Tells declared (.statement typeName d s count) (.text none)
  | operate {surface : Surface σ} {d : Dialect} {options : StoreOptions} {hasTrigger : Bool}
      {op : Operation} {state : σ} {statements : List String} {found : List Record} :
    (∀ text ∈ statements, ∃ l s count, op.IsFor (firstValid declared) l ∧
      (s, count) ∈ op.statements options.maxInList ∧ l.text d s count = .ok (some text)) →
    (∀ r ∈ found, r ∈ op.given ∨ op.IsFor (firstValid declared) r.layout) →
    Tells declared (.operate surface d options hasTrigger op state) (.sent statements found)

/-- Every answer is told from what was declared before it. -/
inductive TellsAll : List RecordType → List (Ask σ) → List Answer → Prop
  | nil {declared : List RecordType} : TellsAll declared [] []
  | cons {declared : List RecordType} {a : Ask σ} {asks : List (Ask σ)} {answer : Answer}
      {answers : List Answer} : Tells declared a answer →
    TellsAll (declared ++ a.declared) asks answers →
    TellsAll declared (a :: asks) (answer :: answers)

/-! ## One step -/

/-- What a registry keeps of the declarations so far. -/
structure Remembers (declared : List RecordType) (r : Registry) : Prop where
  reachable : r.Reachable
  ascending : Ordered.Ascending r.layouts
  get? : ∀ typeName, r.get? typeName = firstValid declared typeName

variable {declared : List RecordType} {r : Registry}

/-- A book that is opened is as one that has spelled a text too long to remember. -/
theorem book_snd_eq_statement {l : Layout} {d : Dialect}
    (hnew : r.books.lookup (l.typeName, d) = none) :
    (r.book l d).2 = (r.statement l d .selectSome (StatementBook.maxRemembered + 1)).2 := by
  -- putting the book back on the shelf finds no other book of this name there
  have hkept : r.books.filter (·.1 != (l.typeName, d)) = r.books := by
    rw [List.filter_eq_self]
    intro entry hentry
    rw [bne_comm]
    exact List.lookup_eq_none_iff.mp hnew entry hentry
  have hlook : ((StatementBook.empty l d).statement .selectSome
      (StatementBook.maxRemembered + 1)).2 = StatementBook.empty l d := rfl
  simp [statement, book, hnew, hlook, shelve, hkept]

theorem Reachable.book {l : Layout} (h : r.Reachable) (hl : r.get? l.typeName = some l)
    (d : Dialect) : (r.book l d).2.Reachable := by
  cases hlookup : r.books.lookup (l.typeName, d) with
  | none =>
      rw [book_snd_eq_statement hlookup]
      exact h.statement d _ _ hl
  | some b =>
      simp only [Registry.book, hlookup]
      exact h

theorem register_of_get? {t : RecordType} {l : Layout} (h : r.get? t.name = some l) :
    r.register t = (.ok l, r) := by
  rw [register, h]

theorem register_of_ok {t : RecordType} {l : Layout} (h : r.get? t.name = none)
    (hl : Layout.resolve t = .ok l) :
    r.register t = (.ok l, { r with layouts := Ordered.insert t.name l r.layouts }) := by
  rw [register, h, hl]

theorem register_of_refused {t : RecordType} {fault : ArgumentFault} (h : r.get? t.name = none)
    (hfault : Layout.resolve t = .error fault) : r.register t = (.error fault, r) := by
  rw [register, h, hfault]

theorem register_of_error {t : RecordType} {fault : ArgumentFault}
    (h : (r.register t).1 = .error fault) : (r.register t).2 = r := by
  cases hknown : r.get? t.name with
  | some l => rw [register_of_get? hknown]
  | none =>
      cases hresolve : Layout.resolve t with
      | ok l =>
          rw [register_of_ok hknown hresolve] at h
          cases h
      | error fault' => rw [register_of_refused hknown hresolve]

/-- Registering carries the memory on, whether the name is known, new or refused. -/
theorem Remembers.register (h : Remembers declared r) (t : RecordType) :
    Tells declared (.register t : Ask σ) (.registered (r.register t).1) ∧
      Remembers (declared ++ [t]) (r.register t).2 := by
  cases hknown : r.get? t.name with
  | some l =>
      have hfirst : firstValid declared t.name = some l := (h.get? t.name).symm.trans hknown
      rw [register_of_get? hknown]
      refine ⟨.known hfirst, h.reachable, h.ascending, ?_⟩
      rw [firstValid_append_of_known hfirst]
      exact h.get?
  | none =>
      have hfirst : firstValid declared t.name = none := (h.get? t.name).symm.trans hknown
      have hreachable := h.reachable.register t
      cases hresolve : Layout.resolve t with
      | ok l =>
          rw [register_of_ok hknown hresolve] at hreachable ⊢
          refine ⟨hresolve ▸ .new hfirst, hreachable, h.ascending.insert t.name l, ?_⟩
          intro typeName
          rw [firstValid_append, hresolve]
          by_cases hname : t.name = typeName
          · rw [← hname, hfirst, if_pos rfl]
            exact Ordered.lookup_insert_self ..
          · rw [if_neg hname, Option.or_none, ← h.get?]
            exact Ordered.lookup_insert_of_ne (Ne.symm hname) ..
      | error fault =>
          rw [register_of_refused hknown hresolve]
          refine ⟨hresolve ▸ .new hfirst, h.reachable, h.ascending, ?_⟩
          rw [firstValid_append_of_refused hresolve]
          exact h.get?

/-- Nothing but registering changes which layouts there are. -/
theorem Remembers.of_layouts (h : Remembers declared r) {r' : Registry} (hr' : r'.Reachable)
    (hlayouts : r'.layouts = r.layouts) : Remembers declared r' := by
  refine ⟨hr', hlayouts ▸ h.ascending, fun typeName ↦ ?_⟩
  rw [← h.get?, get?_of_layouts hlayouts]

theorem Remembers.registered (h : Remembers declared r) {typeName : String} {l : Layout}
    (hl : r.get? typeName = some l) :
    firstValid declared typeName = some l ∧ r.get? l.typeName = some l := by
  refine ⟨(h.get? typeName).symm.trans hl, ?_⟩
  rwa [(h.reachable.sound.layouts hl).1]

/-- A store over the registry sends only statements that the remembered layouts give, and leaves
these layouts in place. -/
theorem Remembers.operate (h : Remembers declared r) (surface : Surface σ) (d : Dialect)
    (options : StoreOptions) (hasTrigger : Bool) (op : Operation) (state : σ) :
    let o := (Store.operate ⟨r, options, hasTrigger⟩ op).run.run surface d r state
    Tells declared (.operate surface d options hasTrigger op state)
      (.sent (o.events.filterMap Event.statement?) ((o.result.toOption.map Reply.found).getD [])) ∧
      Remembers declared o.registry := by
  let store : Store := ⟨r, options, hasTrigger⟩
  have hstore : store.registry.Reachable := h.reachable
  have hget : r.get? = firstValid declared := funext h.get?
  obtain ⟨hevents, hresult, -, hreachable, -⟩ :=
    Program.run_eq_play surface d h.reachable (Store.within_operate hstore op) state
  refine ⟨.operate (fun text htext ↦ ?_) fun record hrecord ↦ ?_,
    h.of_layouts hreachable (Program.layouts_run ..)⟩
  · obtain ⟨e, he, htext⟩ := List.mem_filterMap.mp htext
    rw [hevents] at he
    obtain ⟨request, hrequest, hsql⟩ := Program.text_of_play (fun _ hrequest ↦ hrequest.worded)
      (Store.asks_operate store op) state he htext
    exact ⟨_, _, _, hget ▸ hrequest.layout, hrequest.statement, hsql⟩
  · have hreturns : (store.operate op).Ensures surface d state _ :=
      Store.returns_operate store op state
    rw [hresult] at hrecord
    cases houtcome : (Program.play surface d (store.operate op).run state).result with
    | error e =>
        rw [houtcome] at hrecord
        cases hrecord
    | ok reply =>
        rw [houtcome] at hrecord
        refine (hreturns reply houtcome record hrecord).imp_right ?_
        rintro ⟨l, hfor, inTransaction, sql, params, rows, -, row, -, hread⟩
        rw [Record.layout_of_ofRow hread]
        exact hget ▸ hfor

/-- Whatever is asked, the answer is told from the declarations so far, and the registry remembers
them and the one that has just been made. -/
theorem Remembers.ask (h : Remembers declared r) (a : Ask σ) :
    Tells declared a (r.ask a).1 ∧ Remembers (declared ++ a.declared) (r.ask a).2 := by
  cases a with
  | register t => exact h.register t
  | get typeName =>
      simp only [Ask.declared, List.append_nil, Registry.ask, h.get?]
      exact ⟨.get, h⟩
  | require typeName operation =>
      simp only [Ask.declared, List.append_nil]
      cases hl : r.get? typeName with
      | some l =>
          simp only [Registry.ask, Registry.require, hl]
          exact ⟨.require (h.registered hl).1, h⟩
      | none =>
          simp only [Registry.ask, Registry.require, hl]
          exact ⟨.requireNone ((h.get? typeName).symm.trans hl), h⟩
  | typeNames =>
      simp only [Ask.declared, List.append_nil]
      refine ⟨.typeNames (Text.inByteOrder_iff.mpr h.ascending) fun typeName ↦ ?_, h⟩
      rw [← h.get?]
      exact Ordered.mem_keys_iff
  | book typeName d =>
      simp only [Ask.declared, List.append_nil]
      cases hl : r.get? typeName with
      | some l =>
          obtain ⟨hfirst, hself⟩ := h.registered hl
          obtain ⟨hlayout, hdialect, hsound⟩ := book_fst h.reachable.sound hself d
          simp only [Registry.ask, hl]
          refine ⟨.book hfirst hlayout hdialect fun s count ↦ ?_,
            h.of_layouts (h.reachable.book hself d) (layouts_book r l d)⟩
          rw [StatementBook.statement_fst hsound, hlayout, hdialect]
      | none =>
          simp only [Registry.ask, hl]
          exact ⟨.bookNone ((h.get? typeName).symm.trans hl), h⟩
  | statement typeName d s count =>
      simp only [Ask.declared, List.append_nil]
      cases hl : r.get? typeName with
      | some l =>
          obtain ⟨hfirst, hself⟩ := h.registered hl
          simp only [Registry.ask, hl, request_fst h.reachable.sound hself]
          exact ⟨.statement hfirst,
            h.of_layouts (h.reachable.request d s count hself) (layouts_request r l d s count)⟩
      | none =>
          simp only [Registry.ask, hl]
          exact ⟨.statementNone ((h.get? typeName).symm.trans hl), h⟩
  | operate surface d options hasTrigger op state =>
      simp only [Ask.declared, List.append_nil]
      exact h.operate surface d options hasTrigger op state

/-- A whole history, answer by answer. -/
theorem Remembers.askAll (h : Remembers declared r) (asks : List (Ask σ)) :
    TellsAll declared asks (r.askAll asks).1 ∧
      Remembers (declared ++ asks.flatMap Ask.declared) (r.askAll asks).2 := by
  induction asks generalizing declared r with
  | nil => exact ⟨.nil, by rwa [List.flatMap_nil, List.append_nil]⟩
  | cons a asks ih =>
      obtain ⟨hanswer, hnext⟩ := h.ask a
      obtain ⟨hanswers, hlast⟩ := ih hnext
      rw [List.append_assoc] at hlast
      exact ⟨.cons hanswer hanswers, hlast⟩

theorem remembers_empty : Remembers [] empty :=
  ⟨.empty, Ordered.ascending_nil, fun _ ↦ rfl⟩

/-- Over every history the first declaration of a name that resolves wins. Every answer is told from
the declarations before it, and a type that is refused leaves the registry as it was. -/
theorem askAll_first_valid (asks : List (Ask σ)) :
    let r := (empty.askAll asks).2
    TellsAll [] asks (empty.askAll asks).1 ∧ r.get? = firstValid (asks.flatMap Ask.declared) ∧
      ∀ t fault, (r.register t).1 = .error fault → (r.register t).2 = r := by
  obtain ⟨hanswers, hremembers⟩ := remembers_empty.askAll asks
  exact ⟨hanswers, funext hremembers.get?, fun t fault ↦ register_of_error⟩

/-- A note is refused first, then declared in two ways, and its book is opened in between. The note
that is stored in the end is one of the first of these. -/
theorem askAll_first_valid_note :
    let torn : RecordType := ⟨"Note", none, "id", .int, [⟨"getDone", .text, false⟩,
      ⟨"isDone", .bool, false⟩]⟩
    let t : RecordType := ⟨"Note", none, "id", .int, [⟨"getTitle", .text, false⟩]⟩
    let other : RecordType := ⟨"Note", some "main", "id", .text, []⟩
    let l : Layout := ⟨"Note", none, "id", .int, [("title", .text)]⟩
    let note : Record := ⟨l, .int 1, [.text "a"]⟩
    let put : Ask (List ScriptReply) :=
      .operate Surface.script .mysql ⟨2⟩ false (.putAll [some note]) []
    let asks : List (Ask (List ScriptReply)) := [.register torn, .get "Note", .register t,
      .book "Note" .mysql, .register other, .statement "Note" .mysql .selectAll 0, .register torn,
      put, .typeNames]
    let r := (empty.askAll asks).2
    TellsAll [] asks (empty.askAll asks).1 ∧ r.get? "Note" = some l ∧
      (r.register (.named "" .int)).1 = .error .emptyIdentifier ∧
      (r.register (.named "" .int)).2 = r ∧
      (r.ask put).1 = .sent ["SELECT `id` FROM `Note` WHERE `id` IN (?)",
        "INSERT INTO `Note` (`id`, `title`) VALUES (?, ?)"] [note] := by
  intro torn t other l note put asks r
  obtain ⟨hanswers, hget, hrefused⟩ := askAll_first_valid asks
  have hfault : (r.register (.named "" .int)).1 = .error .emptyIdentifier := by decide +kernel
  refine ⟨hanswers, ?_, hfault, hrefused _ _ hfault, ?_⟩
  · rw [hget]
    decide +kernel
  · let o := (Store.operate ⟨r, ⟨2⟩, false⟩ (.putAll [some note])).run.run Surface.script .mysql r []
    have hsent : o.events.filterMap Event.statement?
        = ["SELECT `id` FROM `Note` WHERE `id` IN (?)",
          "INSERT INTO `Note` (`id`, `title`) VALUES (?, ?)"] := by decide +kernel
    have hfound : (o.result.toOption.map Reply.found).getD [] = [note] := by decide +kernel
    exact congrArg₂ Answer.sent hsent hfound

end Registry

end RecordStore
