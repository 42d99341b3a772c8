import RecordStore.Proofs.Sql.Template
import RecordStore.Proofs.Sqlite.Statements
import RecordStore.Proofs.Taking

namespace RecordStore

/-!
# What spares the database

A question leaves a database as it is, and so does a command that is refused. An action that only
asks therefore changes nothing, and one that ends with its single write changes nothing if it fails.
-/

/-! ## Questions -/

def Statement.asks : Statement → Bool
  | selectAll | selectSome | selectKeys | selectCount => true
  | _ => false

def Sql.Command.Asks : Sql.Command → Prop
  | select _ _ _ => True
  | count _ => True
  | _ => False

theorem Layout.asks_command? {l : Layout} {s : Statement} (h : s.asks = true) (count : Nat) :
    ∃ command, l.command? s count = some command ∧ command.Asks := by
  cases s with
  | selectAll | selectSome | selectKeys | selectCount => exact ⟨_, rfl, trivial⟩
  | _ => cases h

namespace Sqlite

open Sql (Command)

theorem Database.database_of_asks {d : Database} {command : Command} (h : command.Asks)
    {params : List Cell} {e : Effect} (he : d.run command params = .ok e) : e.database = d := by
  unfold run at he
  by_cases hplaces : Refusal.maxPlaces < placeCount command
  · rw [if_pos hplaces] at he
    cases he
  · rw [if_neg hplaces] at he
    cases command with
    | select columns table filter =>
        obtain ⟨t, -, he⟩ := bind_eq_ok.mp he
        cases he
        rfl
    | count table =>
        obtain ⟨t, -, he⟩ := bind_eq_ok.mp he
        cases he
        rfl
    | insert | update | delete => cases h

namespace Connection

variable {c : Connection} {inTransaction : Bool} {command : Command} {params : List Value}

/-- A command that is refused, or one that asks, leaves the committed database as it was. -/
theorem committed_execute_of_asks (hlisted : command.Listed) (h : command.Asks) :
    (c.execute inTransaction (command.render .sqlite) params).2.committed = c.committed := by
  rw [execute_render hlisted]
  cases hrun : (c.current inTransaction).run command (params.map Cell.ofValue) with
  | ok e =>
      have hsame := Database.database_of_asks h hrun
      dsimp only
      rw [hsame, store_current]
  | error refusal =>
      dsimp only
      split <;> rfl

theorem committed_execute_of_error {sql : String} {refusal : Refusal} {c' : Connection}
    (h : c.execute inTransaction sql params = (.error refusal, c')) :
    c'.committed = c.committed := by
  unfold execute at h
  split at h
  · cases h
    rfl
  · split at h
    · cases h
    · cases h
      split <;> rfl

theorem committed_query (hlisted : command.Listed) (h : command.Asks) (shape : List FieldType) :
    (c.query inTransaction (command.render .sqlite) params shape).2.committed = c.committed := by
  have hexecute : (c.execute inTransaction (command.render .sqlite) params).2.committed
      = c.committed := committed_execute_of_asks hlisted h
  unfold query
  split
  · next hrows =>
    rw [hrows] at hexecute
    exact hexecute
  · next hrefused =>
    rw [hrefused] at hexecute
    exact hexecute

theorem committed_write_of_error {sql : String} {e : Error}
    (h : (c.write inTransaction sql params).1 = .error e) :
    (c.write inTransaction sql params).2.committed = c.committed := by
  unfold write at h ⊢
  split
  · next hrows =>
    rw [hrows] at h
    cases h
  · next hrefused => exact committed_execute_of_error hrefused

end Connection

end Sqlite

/-! ## Actions that spare the database -/

namespace Action

variable {α β : Type} {a : Action α}

/-- Whenever the outcome is of the kind `P`, the committed database is as it was before. -/
def Spares (a : Action α) (P : Except Error α → Prop) : Prop :=
  ∀ c, a.Ensures Surface.sqlite .sqlite c fun _ outcome c' ↦ P outcome →
    c'.committed = c.committed

/-- The action changes no committed database. -/
abbrev Reads (a : Action α) : Prop :=
  a.Spares fun _ ↦ True

/-- The action changes a committed database only if it succeeds. -/
abbrev Reverts (a : Action α) : Prop :=
  a.Spares fun outcome ↦ outcome.isOk = false

theorem Reads.reverts (h : a.Reads) : a.Reverts :=
  fun c ↦ (h c).mono fun _ _ _ hsame _ ↦ hsame trivial

theorem reads_ofExcept (outcome : Except Error α) : (ofExcept outcome).Reads :=
  fun _ _ ↦ rfl

theorem reads_tell (n : Notice) : (tell n).Reads :=
  fun _ _ ↦ rfl

/-- What comes after an action that only reads decides when the whole spares the database. -/
theorem Reads.bind {f : α → Action β} {P : Except Error β → Prop} (ha : a.Reads)
    (hf : ∀ x, (f x).Spares P) : (a >>= f).Spares P := by
  intro c
  rw [ensures_bind]
  refine (ha c).mono fun log outcome c' hsame ↦ ?_
  cases outcome with
  | error e => exact fun _ ↦ hsame trivial
  | ok x => exact (hf x c').mono fun _ _ _ hrest hP ↦ (hrest hP).trans (hsame trivial)

/-- Nothing that surely succeeds takes a revert back. -/
theorem Reverts.bind {f : α → Action β} (ha : a.Reverts)
    (hf : ∀ x c, (f x).Ensures Surface.sqlite .sqlite c fun _ outcome _ ↦ outcome.isOk = true) :
    (a >>= f).Reverts := by
  intro c
  rw [ensures_bind]
  refine (ha c).mono fun log outcome c' hsame ↦ ?_
  cases outcome with
  | error e => exact hsame
  | ok x =>
      have hrest : (f x).Ensures Surface.sqlite .sqlite c' fun _ outcome c'' ↦
          outcome.isOk = false → c''.committed = c.committed := by
        refine (hf x c').mono fun log' outcome c'' hok ↦ ?_
        intro hfailed
        rw [hok] at hfailed
        cases hfailed
      exact hrest

theorem Reads.during (h : a.Reads) (operation typeName : String) (subject : Subject) :
    (a.during operation typeName subject).Reads :=
  fun c ↦ ensures_during.mpr (h c)

theorem Reverts.during (h : a.Reverts) (operation typeName : String) (subject : Subject) :
    (a.during operation typeName subject).Reverts := by
  intro c
  rw [ensures_during]
  refine (h c).mono fun log outcome c' hsame hfailed ↦ hsame ?_
  cases outcome with
  | ok x => exact hfailed
  | error e => rfl

theorem reads_query {l : Layout} {s : Statement} (h : s.asks = true) (inTransaction : Bool)
    (count : Nat) (params : List Value) (shape : List FieldType) :
    (perform (.query inTransaction ⟨l, s, count⟩ params shape)).Reads := by
  intro c
  by_cases hcount : s.isSized = true ∧ count = 0
  · have htext : l.text .sqlite s count = .error (.noKeys s.name l.typeName) := if_pos hcount
    rw [ensures_perform_error (by rw [Call.inDialect, htext]; rfl)]
    exact fun _ ↦ rfl
  · obtain ⟨command, hcommand, hasks⟩ := l.asks_command? h count
    have hlisted : command.Listed :=
      Layout.listed_command? (fun hsized hzero ↦ hcount ⟨hsized, hzero⟩) hcommand
    have htext : l.text .sqlite s count = .ok (some (command.render .sqlite)) := by
      rw [Layout.text, if_neg hcount, Layout.sql?, hcommand]
      rfl
    rw [ensures_perform (by rw [Call.inDialect, htext]; rfl)]
    exact fun _ ↦ Sqlite.Connection.committed_query hlisted hasks shape

theorem reverts_write (inTransaction : Bool) (request : Request) (params : List Value) :
    (perform (.write inTransaction request params)).Reverts := by
  intro c
  cases htext : request.layout.text .sqlite request.statement request.count with
  | error fault =>
      rw [ensures_perform_error (by rw [Call.inDialect, htext]; rfl)]
      exact fun _ ↦ rfl
  | ok sql =>
      rw [ensures_perform (by rw [Call.inDialect, htext]; rfl)]
      intro hfailed
      obtain ⟨e, he⟩ : ∃ e, (c.write inTransaction (sql.getD "") params).1 = .error e := by
        cases hwrite : (c.write inTransaction (sql.getD "") params).1 with
        | error e => exact ⟨e, rfl⟩
        | ok n =>
            rw [show (Surface.sqlite.answer (.write inTransaction (sql.getD "") params) c).1
              = .ok n from hwrite] at hfailed
            cases hfailed
      exact Sqlite.Connection.committed_write_of_error he

end Action

/-! ## The store of a command -/

namespace Store

open RecordStore.Action (Reads Reverts Spares reads_ofExcept reads_query reads_tell reverts_write)

theorem reads_materialize (l : Layout) (rows : List Row) : (materialize l rows).Reads := by
  induction rows with
  | nil => exact reads_ofExcept (.ok [])
  | cons row rows ih =>
      apply (reads_tell _).bind
      intro _
      apply (reads_ofExcept _).bind
      intro found
      exact ih.bind fun rest ↦ reads_ofExcept (.ok _)

theorem reads_fetchChunks (l : Layout) (slices : List (List Key)) :
    (fetchChunks l slices).Reads := by
  induction slices with
  | nil => exact reads_ofExcept (.ok [])
  | cons slice slices ih =>
      refine Reads.bind (reads_query rfl _ _ _ _) fun rows ↦ ?_
      apply (reads_materialize l rows).bind
      intro found
      exact ih.bind fun rest ↦ reads_ofExcept (.ok _)

section

variable {store : Store} (typeName : String)

theorem spares_taking {α : Type} {P : Except Error α → Prop} {f : Layout → Action α}
    (hf : ∀ l, (f l).Spares P) (operation : String) (keys : List Key) :
    (store.taking typeName operation keys f).Spares P :=
  (reads_ofExcept _).bind fun l ↦ (reads_ofExcept _).bind fun _ ↦ hf l

theorem reads_getSome (keys : List Key) : (store.getSome typeName keys).Reads := by
  rw [getSome_eq]
  apply spares_taking
  intro l
  split
  · exact reads_ofExcept (.ok [])
  · exact (reads_fetchChunks l _).during _ _ _

theorem reads_getAll : (store.getAll typeName).Reads := by
  rw [getAll_eq]
  apply spares_taking
  intro l
  apply Reads.during
  exact Reads.bind (reads_query rfl _ _ _ _) fun rows ↦ reads_materialize l rows

theorem reads_getSize : (store.getSize typeName).Reads := by
  rw [getSize_eq]
  apply spares_taking
  intro l
  apply Reads.during
  exact Reads.bind (reads_query rfl _ _ _ _) fun rows ↦ reads_ofExcept (countOf rows)

theorem reverts_remove (keys : List Key) : (store.remove typeName keys).Reverts := by
  rw [remove_eq]
  apply spares_taking
  intro l
  split
  · exact (reads_ofExcept (.ok 0)).reverts
  · apply ((reverts_write _ _ _).during _ _ _).bind
    intro count c
    split
    · rw [Action.ensures_bind, Action.ensures_announce]
      rfl
    · rfl

theorem reverts_removeAll : (store.removeAll typeName).Reverts := by
  rw [removeAll_eq]
  apply spares_taking
  intro l
  exact (reverts_write _ _ _).during _ _ _

end

end Store

end RecordStore
