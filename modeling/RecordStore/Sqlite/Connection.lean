import RecordStore.Program
import RecordStore.Sqlite.Database
import RecordStore.Sqlite.Decode

namespace RecordStore.Sqlite

/-!
# Connections

A connection holds the committed database and, while a transaction is open, the database as the
transaction has left it. Outside a transaction a batch is carried out as a whole or not at all;
inside one, the rows before the one that fails stay.
-/

structure Connection where
  committed : Database
  pending : Option Database
  /-- How many rows the last command that writes has changed. -/
  changed : Nat
deriving DecidableEq

namespace Connection

def opened (d : Database) : Connection :=
  ⟨d, none, 0⟩

def current (c : Connection) (inTransaction : Bool) : Database :=
  if inTransaction then c.pending.getD c.committed else c.committed

def store (c : Connection) (inTransaction : Bool) (d : Database) : Connection :=
  if inTransaction ∧ c.pending.isSome then { c with pending := some d } else { c with committed := d }

def execute (c : Connection) (inTransaction : Bool) (sql : String) (params : List Value) :
    Except Refusal (List (List Cell)) × Connection :=
  match Sql.Command.read? .sqlite sql with
  | none => (.error .unreadable, c)
  | some command =>
    match (c.current inTransaction).run command (params.map Cell.ofValue) with
    | .ok e =>
      (.ok e.rows, { c.store inTransaction e.database with changed := e.changed.getD c.changed })
    | .error refusal => (.error refusal, if refusal.isOfRow then { c with changed := 0 } else c)

def decodeCells (column : Nat) : List FieldType → List Cell → Except Error Row
  | t :: shape, cell :: cells => do
    match cell.decode t with
    | .ok v => pure (v :: (← decodeCells (column + 1) shape cells))
    | .error fault => throw (.database (.undecodable column fault.message))
  | _, _ => pure []

def decodeRow (shape : List FieldType) (cells : List Cell) : Except Error Row :=
  if cells.length = shape.length then decodeCells 0 shape cells
  else .error (.execution (.rowWidth shape.length cells.length))

def query (c : Connection) (inTransaction : Bool) (sql : String) (params : List Value)
    (shape : List FieldType) : Except Error (List Row) × Connection :=
  match c.execute inTransaction sql params with
  | (.ok rows, c) => (rows.mapM (decodeRow shape), c)
  | (.error refusal, c) => (.error refusal.toError, c)

def write (c : Connection) (inTransaction : Bool) (sql : String) (params : List Value) :
    Except Error Nat × Connection :=
  match c.execute inTransaction sql params with
  | (.ok _, c) => (.ok c.changed, c)
  | (.error refusal, c) => (.error refusal.toError, c)

/-- Writes row after row and stops at the first that is refused. -/
def writeRows (c : Connection) (inTransaction : Bool) (sql : String) :
    List Row → Except Error (List Nat) × Connection
  | [] => (.ok [], c)
  | params :: rest =>
    match c.write inTransaction sql params with
    | (.ok count, c) =>
      let (counts, c) := c.writeRows inTransaction sql rest
      (counts.map (count :: ·), c)
    | (.error e, c) => (.error e, c)

def batchWrite (c : Connection) (inTransaction : Bool) (sql : String) (rows : List Row) :
    Except Error (List Nat) × Connection :=
  match c.writeRows inTransaction sql rows with
  | (.ok counts, after) => (.ok counts, after)
  | (.error e, after) =>
    (.error e, if inTransaction then after else { c with changed := after.changed })

def begin (c : Connection) : Connection :=
  { c with pending := some c.committed }

def commit (c : Connection) : Connection :=
  { c with committed := c.pending.getD c.committed, pending := none }

def rollback (c : Connection) : Connection :=
  { c with pending := none }

def answer (c : Connection) : {k : ReplyKind} → Call String k → Except Error k.Reply × Connection
  | _, .query inTransaction sql params shape => c.query inTransaction sql params shape
  | _, .write inTransaction sql params => c.write inTransaction sql params
  | _, .batchWrite inTransaction sql rows => c.batchWrite inTransaction sql rows
  | _, .openTransaction _ => (.ok (), c.begin)
  | _, .commit => (.ok (), c.commit)
  | _, .rollback => (.ok (), c.rollback)

def createTable (c : Connection) (name : String) (columns : List (String × String)) :
    Except Error Connection :=
  match c.committed.create name columns with
  | .ok d => .ok { c with committed := d }
  | .error refusal => .error refusal.toError

end Connection

end RecordStore.Sqlite

namespace RecordStore

def Surface.sqlite : Surface Sqlite.Connection where
  answer call c := c.answer call

end RecordStore
