import RecordStore.Store.Basic

namespace RecordStore.Store

/-!
# Reading from a store

Reads run outside of any transaction. A long list of keys is asked for in several queries, none of
which lists more keys than the store allows.
-/

def fetchChunks (l : Layout) : List (List Key) → Action (List Record)
  | [] => pure []
  | keys :: rest => do
    let rows ← Action.perform
      (.query false ⟨l, .selectSome, keys.length⟩ (keys.map Key.toValue) l.rowShape)
    let found ← materialize l rows
    return found ++ (← fetchChunks l rest)

def fetchSome (s : Store) (l : Layout) (keys : List Key) : Action (List Record) :=
  fetchChunks l (chunks s.options.maxInList keys)

/-- The record with the given key; of several rows the last counts. -/
def get (s : Store) (typeName : String) (key : Key) : Action (Option Record) := do
  let l ← s.require typeName "get"
  Action.ofArgument (l.checkKey key)
  let found ← (s.fetchSome l [key]).during "get" typeName (.one key)
  return found.getLast?

/-- The records with the given keys, in the order in which they are found. -/
def getSome (s : Store) (typeName : String) (keys : List Key) : Action (List Record) := do
  let l ← s.require typeName "get_some"
  if keys = [] then return []
  Action.ofArgument (checkKeys l keys)
  (s.fetchSome l keys).during "get_some" typeName (.ids keys)

def getAll (s : Store) (typeName : String) : Action (List Record) := do
  let l ← s.require typeName "get_all"
  let fetched : Action (List Record) := do
    let rows ← Action.perform (.query false ⟨l, .selectAll, 0⟩ [] l.rowShape)
    materialize l rows
  fetched.during "get_all" typeName .whole

/-- The count that the answer to a counting query holds; a negative one counts as none. -/
def countOf (rows : List Row) : Except Error Nat :=
  match rows.head?.bind List.head? with
  | some (.i64 n) => .ok n.toInt.toNat
  | other => .error (.execution (.unexpectedCount other))

def getSize (s : Store) (typeName : String) : Action Nat := do
  let l ← s.require typeName "get_size"
  let counted : Action Nat := do
    let rows ← Action.perform (.query false ⟨l, .selectCount, 0⟩ [] [.i64])
    Action.ofExcept (countOf rows)
  counted.during "get_size" typeName .whole

def contains (s : Store) (typeName : String) (key : Key) : Action Bool := do
  let l ← s.require typeName "contains"
  Action.ofArgument (l.checkKey key)
  let checked : Action Bool := do
    let rows ← Action.perform
      (.query false ⟨l, .selectKeys, 1⟩ [key.toValue] [l.keyType.fieldType])
    return !rows.isEmpty
  checked.during "contains" typeName (.one key)

/-- An absent record is never contained. -/
def containsRecord (s : Store) : Option Record → Action Bool
  | some r => s.contains r.typeName r.key
  | none => pure false

def getView (s : Store) (v : View) (key : Key) : Action (Option Record) := do
  match ← s.get v.typeName key with
  | some r => return some (← Action.ofExcept (r.viewAs v))
  | none => return none

def getAllView (s : Store) (v : View) : Action (List Record) := do
  let found ← s.getAll v.typeName
  Action.ofExcept (found.mapM (·.viewAs v))

end RecordStore.Store
