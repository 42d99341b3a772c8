import RecordStore.Proofs.Tables
import RecordStore.Proofs.Transaction

namespace RecordStore

open Sql (Command)

/-!
# The surface of keyed tables

The surface reads the texts of its calls and runs them on a database. A transaction works on a copy
that takes the place of the database when it is committed, and is dropped when a commit or a
rollback fails. Any call can be made to fail, a batch after any number of its rows.
-/

/-- The orders in which rows are returned, call by call. -/
structure Arrangement where
  order : Nat → List Row → List Row
  perm : ∀ call rows, (order call rows).Perm rows

structure Fault where
  error : Error
  /-- How many rows of a batch are written before it fails. -/
  written : Nat

structure TableState where
  committed : Database
  /-- The copy that the open transaction works on. -/
  pending : Option Database
  /-- The number of the next call. -/
  clock : Nat

namespace TableState

def refusal : Error := .execution (.stated "refused")

/-- Transactions are serial: outside of one nothing is done while one is open. -/
def target? (s : TableState) (inTransaction : Bool) : Option Database :=
  match inTransaction, s.pending with
  | true, some db => some db
  | false, none => some s.committed
  | _, _ => none

def retarget (s : TableState) (inTransaction : Bool) (db : Database) : TableState :=
  if inTransaction then { s with pending := some db } else { s with committed := db }

def tick (s : TableState) : TableState :=
  { s with clock := s.clock + 1 }

@[simp] theorem pending_tick (s : TableState) : s.tick.pending = s.pending := rfl

/-- The answer to a call whose rows come in the given order and which fails if a fault is given. -/
def answer (d : Dialect) (order : List Row → List Row) (fault : Option Fault) {k : ReplyKind} :
    Call String k → TableState → Except Error k.Reply × TableState
  | .query inTransaction text params shape, s =>
    let found := do
      let db ← s.target? inTransaction
      let c ← Command.read? d text
      db.query? c params shape
    match fault, found with
    | some f, _ => (.error f.error, s)
    | none, some rows => (.ok (order rows), s)
    | none, none => (.error refusal, s)
  | .write inTransaction text params, s =>
    let written := do
      let db ← s.target? inTransaction
      let c ← Command.read? d text
      db.write? c params
    match fault, written with
    | some f, _ => (.error f.error, s)
    | none, some (db, n) => (.ok n, s.retarget inTransaction db)
    | none, none => (.error refusal, s)
  | .batchWrite inTransaction text rows, s =>
    match s.target? inTransaction, Command.read? d text, fault with
    | some db, some c, some f =>
      (.error f.error, s.retarget inTransaction (Database.writeAll c db (rows.take f.written)).1)
    | some db, some c, none =>
      let (db, counts?) := Database.writeAll c db rows
      match counts? with
      | some counts => (.ok counts, s.retarget inTransaction db)
      | none => (.error refusal, s.retarget inTransaction db)
    | _, _, some f => (.error f.error, s)
    | _, _, none => (.error refusal, s)
  | .openTransaction _, s =>
    match fault, s.pending with
    | some f, _ => (.error f.error, s)
    | none, none => (.ok (), { s with pending := some s.committed })
    | none, some _ => (.error refusal, s)
  | .commit, s =>
    match fault, s.pending with
    | some f, _ => (.error f.error, { s with pending := none })
    | none, some db => (.ok (), { s with committed := db, pending := none })
    | none, none => (.error refusal, s)
  | .rollback, s =>
    match fault with
    | some f => (.error f.error, { s with pending := none })
    | none => (.ok (), { s with pending := none })

end TableState

/-- The surface of keyed tables in a dialect, with faults by the numbers of the calls. -/
def Surface.tables (d : Dialect) (arrangement : Arrangement) (faults : Nat → Option Fault) :
    Surface TableState where
  answer c s := TableState.answer d (arrangement.order s.clock) (faults s.clock) c s.tick

section

variable {d : Dialect} {arrangement : Arrangement} {faults : Nat → Option Fault} {s : TableState}
  {db db' : Database} {c : Command} {l : Layout}

namespace TableState

theorem answer_query {inTransaction : Bool} {params : List Value} {shape : List FieldType}
    {rows : List Row} (hc : c.Listed) (hdb : s.target? inTransaction = some db)
    (hrows : db.query? c params shape = some rows) :
    (Surface.tables d arrangement faults).answer
        (.query inTransaction (c.render d) params shape) s =
      match faults s.clock with
      | some f => (.error f.error, s.tick)
      | none => (.ok (arrangement.order s.clock rows), s.tick) := by
  have hdb' : s.tick.target? inTransaction = some db := hdb
  simp only [Surface.tables, answer, hdb', Command.read?_render hc, Option.bind_eq_bind,
    Option.bind_some, hrows]
  cases faults s.clock <;> rfl

theorem answer_write {inTransaction : Bool} {params : List Value} {n : Nat} (hc : c.Listed)
    (hdb : s.target? inTransaction = some db) (hwrite : db.write? c params = some (db', n)) :
    (Surface.tables d arrangement faults).answer (.write inTransaction (c.render d) params) s =
      match faults s.clock with
      | some f => (.error f.error, s.tick)
      | none => (.ok n, s.tick.retarget inTransaction db') := by
  have hdb' : s.tick.target? inTransaction = some db := hdb
  simp only [Surface.tables, answer, hdb', Command.read?_render hc, Option.bind_eq_bind,
    Option.bind_some, hwrite]
  cases faults s.clock <;> rfl

theorem answer_batchWrite {inTransaction : Bool} {rows : List Row} {counts : List Nat}
    (hc : c.Listed) (hdb : s.target? inTransaction = some db)
    (hwrite : Database.writeAll c db rows = (db', some counts)) :
    (Surface.tables d arrangement faults).answer (.batchWrite inTransaction (c.render d) rows) s =
      match faults s.clock with
      | some f => (.error f.error, s.tick.retarget inTransaction
          (Database.writeAll c db (rows.take f.written)).1)
      | none => (.ok counts, s.tick.retarget inTransaction db') := by
  have hdb' : s.tick.target? inTransaction = some db := hdb
  simp only [Surface.tables, answer, hdb', Command.read?_render hc]
  cases faults s.clock with
  | some f => rfl
  | none => simp only [hwrite]

theorem answer_openTransaction (hpending : s.pending = none) (isolation : Isolation) :
    (Surface.tables d arrangement faults).answer (.openTransaction isolation) s =
      match faults s.clock with
      | some f => (.error f.error, s.tick)
      | none => (.ok (), { s.tick with pending := some s.committed }) := by
  simp only [Surface.tables, answer, pending_tick, hpending]
  cases faults s.clock <;> rfl

theorem answer_commit (hpending : s.pending = some db) :
    (Surface.tables d arrangement faults).answer .commit s =
      match faults s.clock with
      | some f => (.error f.error, { s.tick with pending := none })
      | none => (.ok (), { s.tick with committed := db, pending := none }) := by
  simp only [Surface.tables, answer, pending_tick, hpending]
  cases faults s.clock <;> rfl

theorem answer_rollback :
    ((Surface.tables d arrangement faults).answer .rollback s).2
      = { s.tick with pending := none } := by
  simp only [Surface.tables, answer]
  cases faults s.clock <;> rfl

end TableState

end

end RecordStore
