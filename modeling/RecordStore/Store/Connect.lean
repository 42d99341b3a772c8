import RecordStore.Config.Basic
import RecordStore.Sqlite.Location
import RecordStore.Store.Basic

namespace RecordStore

/-!
# Connecting a store to its database

A configuration names a database and declares types. Connecting opens the database and registers the
types in the order of their declaration.
-/

namespace Registry

/-- Registers types in order and stops at the first that does not resolve. -/
def registerAll (r : Registry) : List RecordType → Except ArgumentFault Registry
  | [] => .ok r
  | t :: rest =>
    match r.register t with
    | (.ok _, r) => r.registerAll rest
    | (.error fault, _) => .error fault

end Registry

namespace Store

def ofConfig (c : Config) : Except Error Store := do
  let registry ← Error.ofArgument (Registry.empty.registerAll c.types)
  pure ⟨registry, .ofLimit c.storage.maxInList, false⟩

/-- The store of a configuration and a connection to an empty database at its URL. -/
def connect (c : Config) : Except Error (Store × Sqlite.Connection) := do
  let connection ← Sqlite.Connection.ofUrl c.database.url
  let store ← ofConfig c
  pure (store, connection)

end Store

end RecordStore
