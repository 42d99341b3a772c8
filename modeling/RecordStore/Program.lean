import RecordStore.Record
import RecordStore.Registry

namespace RecordStore

/-!
# Programs of calls

What a store operation does is a `Program`: a tree of calls to an execution surface, each followed
by what to do with the answer, and of notices to whoever watches. A call names the statement it
wants; `Program.run` has it spelled in the dialect of the surface and keeps the trace.
-/

inductive ReplyKind
  | rows
  | count
  | counts
  | done
deriving DecidableEq

abbrev Row := List Value

abbrev ReplyKind.Reply : ReplyKind → Type
  | rows => List Row
  | count => Nat
  | counts => List Nat
  | done => Unit

/-- A call to an execution surface, with statements given as `σ`. The flag tells whether the call
belongs to the open transaction. -/
inductive Call (σ : Type) : ReplyKind → Type
  | query (inTransaction : Bool) (statement : σ) (params : List Value) (shape : List FieldType) :
    Call σ .rows
  | write (inTransaction : Bool) (statement : σ) (params : List Value) : Call σ .count
  | batchWrite (inTransaction : Bool) (statement : σ) (rows : List Row) : Call σ .counts
  | openTransaction (isolation : Isolation) : Call σ .done
  | commit : Call σ .done
  | rollback : Call σ .done

structure Request where
  layout : Layout
  statement : Statement
  count : Nat
deriving DecidableEq

/-- What a watcher is told: the hooks around writes, and rows before they become records. -/
inductive Notice
  | beforePersist (r : Record)
  | afterPersist (r : Record)
  | deleted (typeName : String) (key : Key)
  | materializing (typeName : String) (row : Row)
deriving DecidableEq

inductive Program (α : Type) : Type
  | done (a : α)
  | call {k : ReplyKind} (c : Call Request k) (next : Except Error k.Reply → Program α)
  | notify (n : Notice) (next : Program α)

namespace Program

variable {α β : Type}

def bind : Program α → (α → Program β) → Program β
  | done a, f => f a
  | call c next, f => call c fun reply ↦ (next reply).bind f
  | notify n next, f => notify n (next.bind f)

instance : Monad Program where
  pure := done
  bind := bind

@[simp] theorem pure_eq (a : α) : (pure a : Program α) = done a := rfl

@[simp] theorem bind_eq (p : Program α) (f : α → Program β) : p >>= f = p.bind f := rfl

@[simp] theorem done_bind (a : α) (f : α → Program β) : (done a).bind f = f a := rfl

@[simp] theorem call_bind {k : ReplyKind} (c : Call Request k)
    (next : Except Error k.Reply → Program α) (f : α → Program β) :
    (call c next).bind f = call c fun reply ↦ (next reply).bind f := rfl

@[simp] theorem notify_bind (n : Notice) (next : Program α) (f : α → Program β) :
    (notify n next).bind f = notify n (next.bind f) := rfl

@[simp] theorem bind_done (p : Program α) : p.bind done = p := by
  induction p with
  | done a => rfl
  | call c next ih => simp [ih]
  | notify n next ih => simp [ih]

theorem bind_assoc {γ : Type} (p : Program α) (f : α → Program β) (g : β → Program γ) :
    (p.bind f).bind g = p.bind fun a ↦ (f a).bind g := by
  induction p with
  | done a => rfl
  | call c next ih => simp [ih]
  | notify n next ih => simp [ih]

end Program

/-- A program that may fail. -/
abbrev Action (α : Type) := ExceptT Error Program α

namespace Action

variable {α : Type}

def perform {k : ReplyKind} (c : Call Request k) : Action k.Reply :=
  ExceptT.mk (.call c .done)

def tell (n : Notice) : Action Unit :=
  ExceptT.mk (.notify n (.done (.ok ())))

def tellAll : List Notice → Action Unit
  | [] => pure ()
  | n :: rest => do
    tell n
    tellAll rest

def ofExcept (e : Except Error α) : Action α :=
  ExceptT.mk (.done e)

def ofArgument (e : Except ArgumentFault α) : Action α :=
  ofExcept (Error.ofArgument e)

/-- The outcome of an action as a value, so that a failure does not end the program. -/
def attempt (a : Action α) : Action (Except Error α) :=
  ExceptT.mk (a.run.bind fun outcome ↦ .done (.ok outcome))

/-- Wraps the failure of an action with the operation, type and subject it happened on. -/
def during (operation typeName : String) (subject : Subject) (a : Action α) : Action α :=
  ExceptT.mk (a.run.bind fun outcome ↦
    .done (outcome.mapError (Error.during operation typeName subject)))

end Action

/-- An execution surface with states of type `σ`: it answers spelled calls one at a time. -/
structure Surface (σ : Type) where
  answer : {k : ReplyKind} → Call String k → σ → Except Error k.Reply × σ

inductive Event
  | call {k : ReplyKind} (c : Call String k)
  | notice (n : Notice)

structure Outcome (σ α : Type) where
  events : List Event
  result : α
  registry : Registry
  state : σ

/-- The call with its statement spelled, taken from the statement book of its layout. -/
def Call.spell {k : ReplyKind} (d : Dialect) (r : Registry) :
    Call Request k → Except Error (Call String k) × Registry
  | query inTransaction request params shape =>
    let (text, r) := r.statement request.layout d request.statement request.count
    (Error.ofArgument (text.map fun sql ↦ query inTransaction (sql.getD "") params shape), r)
  | write inTransaction request params =>
    let (text, r) := r.statement request.layout d request.statement request.count
    (Error.ofArgument (text.map fun sql ↦ write inTransaction (sql.getD "") params), r)
  | batchWrite inTransaction request rows =>
    let (text, r) := r.statement request.layout d request.statement request.count
    (Error.ofArgument (text.map fun sql ↦ batchWrite inTransaction (sql.getD "") rows), r)
  | openTransaction isolation => (.ok (openTransaction isolation), r)
  | commit => (.ok commit, r)
  | rollback => (.ok rollback, r)

/-- Runs a program on a surface of a dialect and records what happens. -/
def Program.run {σ α : Type} (surface : Surface σ) (d : Dialect) :
    Program α → Registry → σ → Outcome σ α
  | done a, r, s => ⟨[], a, r, s⟩
  | notify n next, r, s =>
    let rest := next.run surface d r s
    { rest with events := .notice n :: rest.events }
  | call c next, r, s =>
    match c.spell d r with
    | (.ok spelled, r) =>
      let (reply, s) := surface.answer spelled s
      let rest := (next reply).run surface d r s
      { rest with events := .call spelled :: rest.events }
    | (.error e, r) => (next (.error e)).run surface d r s

end RecordStore
