import RecordStore.Layout
import RecordStore.Text.Inspected
import RecordStore.Text.Search

namespace RecordStore

open Text (Inspected cutAt? mentions quoted)

/-!
# Configurations

Which database a store runs against, how it reads, and which record types it serves.
-/

structure DatabaseSettings where
  type : String
  url : String
  maxConnections : Nat
deriving DecidableEq

structure StorageSettings where
  maxInList : Nat
deriving DecidableEq

structure Config where
  database : DatabaseSettings
  storage : StorageSettings
  types : List RecordType
deriving DecidableEq

namespace DatabaseSettings

def isInMemory (c : DatabaseSettings) : Bool :=
  mentions ":memory:" c.url || mentions "mode=memory" c.url

/-- The authority `user:password@host` with the password replaced; the password ends at the last
`@` and begins at the first `:`. -/
def redactAuthority (authority : List Char) : List Char :=
  let host := (authority.reverse.takeWhile (· != '@')).reverse
  let credentials := authority.take (authority.length - host.length - 1)
  if '@' ∈ authority ∧ ':' ∈ credentials then
    credentials.takeWhile (· != ':') ++ ":***@".toList ++ host
  else authority

def redact (url : List Char) : List Char :=
  match cutAt? "://".toList url with
  | none => url
  | some (scheme, rest) =>
    scheme ++ "://".toList ++ redactAuthority (rest.takeWhile (· != '/'))
      ++ rest.dropWhile (· != '/')

def redactedUrl (c : DatabaseSettings) : String :=
  String.ofList (redact c.url.toList)

def inspect (c : DatabaseSettings) : Inspected :=
  .fields "DatabaseConfig" [("type", .ofText (quoted c.type)),
    ("url", .ofText (quoted c.redactedUrl)), ("max_connections", .leaf (integerChars c.maxConnections))]

def defaultType : String := "sqlite"

def defaultConnections : Nat := 5

end DatabaseSettings

def StorageSettings.default : StorageSettings :=
  ⟨500⟩

structure DeclaredType where
  name : String
  schema : Option String
  keyColumn : String
  keyType : KeyType
  accessors : List Accessor
  fields : List (String × FieldType)

namespace DeclaredType

/-- The usual accessors of the declared fields follow the declared accessors. -/
def toRecordType (t : DeclaredType) : RecordType :=
  { name := t.name
    schema := t.schema
    keyColumn := t.keyColumn
    keyType := t.keyType
    accessors := t.accessors ++ t.fields.map fun (name, type) ↦ .ofField name type }

def empty : DeclaredType :=
  ⟨"", none, RecordType.defaultKeyColumn, .int, [], []⟩

end DeclaredType

namespace Config

def type? (c : Config) (name : String) : Option RecordType :=
  c.types.find? (·.name == name)

/-- No two types share a name and every type resolves. -/
def checkTypes (seen : List String) : List RecordType → Except ConfigFault Unit
  | [] => .ok ()
  | t :: rest =>
    if t.name ∈ seen then .error (.repeatedType t.name)
    else
      match Layout.resolve t with
      | .ok _ => checkTypes (t.name :: seen) rest
      | .error fault => .error (.invalidType t.name fault)

def validate (c : Config) : Except ConfigFault Unit :=
  if c.database.url = "" then .error .noUrl
  else if Text.lowercase c.database.type ∉ ["sqlite", "sqlite3"] then
    .error (.unsupportedDatabase c.database.type)
  else if c.database.maxConnections = 0 then .error .noConnections
  else if c.storage.maxInList = 0 then .error .noInList
  else checkTypes [] c.types

end Config

end RecordStore
