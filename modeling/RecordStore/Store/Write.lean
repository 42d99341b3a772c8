import RecordStore.Store.Basic

namespace RecordStore.Store

/-!
# Writing to a store

A batch of records is written in one serializable transaction: the keys that exist already are asked
for, new records are inserted and the others updated. Deletions are single statements of their own.
-/

/-- A batch holds records of one type with its registered layout, no two of them with one key. -/
def checkBatch (l : Layout) (seen : List Key) : List Record → Except ArgumentFault Unit
  | [] => .ok ()
  | r :: rest =>
    if r.typeName ≠ l.typeName then .error (.mixedBatch "put_all" l.typeName r.typeName)
    else if r.layout ≠ l then .error (.foreignRecord r.display l.typeName)
    else if r.key ∈ seen then .error (.repeatedRecord r.display)
    else checkBatch l (r.key :: seen) rest

def keysOf (rows : List Row) : Except Error (List Key) :=
  rows.flatten.mapM Key.ofValue

def existingKeys (l : Layout) : List (List Key) → Action (List Key)
  | [] => pure []
  | keys :: rest => do
    let rows ← Action.perform
      (.query true ⟨l, .selectKeys, keys.length⟩ (keys.map Key.toValue) [l.keyType.fieldType])
    let found ← Action.ofExcept (keysOf rows)
    return found ++ (← existingKeys l rest)

/-- The row that inserts a record: its key and then its values. -/
def insertRow (r : Record) : Row :=
  r.key.toValue :: r.values

/-- The row that updates a record: its values and then its key. -/
def updateRow (r : Record) : Row :=
  r.values ++ [r.key.toValue]

/-- Inserts the records whose keys do not exist and updates the others, inside the transaction. -/
def upsert (s : Store) (l : Layout) (records : List Record) : Action Unit := do
  let existing ← existingKeys l (chunks s.options.maxInList (records.map Record.key))
  let (present, new) := records.partition (·.key ∈ existing)
  if new ≠ [] then
    discard (Action.perform (.batchWrite true ⟨l, .insert, 0⟩ (new.map insertRow)))
  if present ≠ [] ∧ l.fields ≠ [] then
    discard (Action.perform (.batchWrite true ⟨l, .update, 0⟩ (present.map updateRow)))

/-- Runs an action in a transaction, which is committed if the action succeeds and rolled back
otherwise. The failure of a rollback is not reported. -/
def inTransaction (a : Action Unit) : Action Unit := do
  Action.perform (.openTransaction .serializable)
  match ← a.attempt with
  | .ok () => Action.perform .commit
  | .error e =>
    discard (Action.attempt (Action.perform .rollback))
    throw e

/-- Inserts or updates the records that are present, all or none, and returns them. -/
def putAll (s : Store) (entries : List (Option Record)) : Action (List Record) := do
  let records := entries.reduceOption
  match records with
  | [] => return []
  | first :: _ =>
    let l ← s.require first.typeName "put_all"
    Action.ofArgument (checkBatch l [] records)
    s.announce (records.map .beforePersist)
    (inTransaction (s.upsert l records)).during "put_all" first.typeName
      (.records (records.map Record.key))
    s.announce (records.map .afterPersist)
    return records

/-- Inserts or updates one record; an absent one is passed over. -/
def put (s : Store) : Option Record → Action (Option Record)
  | some r => do
    let stored ← s.putAll [some r]
    return stored.getLast?
  | none => pure none

/-- Deletes by key in a single statement and returns how many records it removed. The trigger is
told of every requested key if any was removed. -/
def remove (s : Store) (typeName : String) (keys : List Key) : Action Nat := do
  let l ← s.require typeName "remove"
  if keys = [] then return 0
  Action.ofArgument (checkKeys l keys)
  let count ← Action.during "remove" typeName (.ids keys)
    (Action.perform (.write false ⟨l, .delete, keys.length⟩ (keys.map Key.toValue)))
  if 0 < count then s.announce (keys.map (.deleted typeName))
  return count

/-- Deletes the records that are present, all of which must be of one type. -/
def removeRecords (s : Store) (entries : List (Option Record)) : Action Nat := do
  let records := entries.reduceOption
  match records with
  | [] => return 0
  | first :: _ =>
    match records.find? (·.typeName != first.typeName) with
    | some other =>
      throw (.illegalArgument (.mixedBatch "remove_objects" first.typeName other.typeName))
    | none => s.remove first.typeName (records.map Record.key)

def removeAll (s : Store) (typeName : String) : Action Nat := do
  let l ← s.require typeName "remove_all"
  Action.during "remove_all" typeName .whole
    (Action.perform (.write false ⟨l, .deleteAll, 0⟩ []))

end RecordStore.Store
