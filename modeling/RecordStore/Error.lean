import RecordStore.Json.Decode
import RecordStore.Key.Basic

namespace RecordStore

open Text (quoted)

/-!
# Errors

An error is its cause; `message` is the only place where causes are put into words. The class of an
error decides the exit code of a program that fails with it.
-/

def maxIdentifierLength : Nat := 128

inductive ArgumentFault
  | emptyIdentifier
  | nulInIdentifier (name : String)
  | longIdentifier (name : String)
  | notInteger (raw : String) (reason : IntegerFault)
  | notUuid (raw : String) (reason : Uuid.Fault)
  | mapsOntoKey (accessor typeName field : String)
  | conflictingField (field typeName : String) (declared again : FieldType)
  | unknownField (field typeName : String)
  | notAccessor (name typeName : String)
  | notSetter (name typeName : String)
  | wrongKeyType (typeName : String) (wanted : KeyType) (key : Key)
  | noKeys (statement typeName : String)
  | unregistered (operation typeName : String)
  | misnamedView (view declared : String)
  | reassignedKey (typeName : String) (key : Key)
  | mixedBatch (operation typeName other : String)
  | foreignRecord (record typeName : String)
  | repeatedRecord (record : String)
  | notViewable (typeName : String) (key : Key) (view : String)
  | undeclaredType (typeName : String)
  | stated (text : String)
deriving DecidableEq

def callText (operation : String) : String :=
  "Cannot call ObjectStorage::" ++ operation ++ "(...) with "

def ArgumentFault.message : ArgumentFault → String
  | emptyIdentifier => "Identifier cannot be empty"
  | nulInIdentifier name =>
    "Identifier contains null byte (possible injection attempt): " ++ quoted name
  | longIdentifier name =>
    s!"Identifier exceeds maximum length of {maxIdentifierLength} bytes (got {name.utf8ByteSize} bytes): "
      ++ quoted name
  | notInteger raw reason => s!"'{raw}' is not an integer key: {reason.message}"
  | notUuid raw reason => s!"'{raw}' is not a uuid key: {reason.message}"
  | mapsOntoKey accessor typeName field =>
    s!"Accessor {accessor} of {typeName} maps onto the identity column '{field}'"
  | conflictingField field typeName declared again =>
    s!"Field '{field}' of {typeName} is declared as both {declared.name} and {again.name}"
  | unknownField field typeName => s!"Unknown field '{field}' for type {typeName}"
  | notAccessor name typeName => s!"'{name}' is not an accessor of type {typeName}"
  | notSetter name typeName => s!"'{name}' is not a setter of type {typeName}"
  | wrongKeyType typeName wanted key => s!"{typeName} keys are {wanted.tag}, got {key.display}"
  | noKeys statement typeName => s!"{statement} for {typeName} needs at least one key"
  | unregistered operation typeName => callText operation ++ "non-registered type " ++ typeName
  | misnamedView view declared => s!"{view} declares its table as {declared}"
  | reassignedKey typeName key => s!"cannot re-assign the id of {typeName} {key.display}"
  | mixedBatch operation typeName other =>
    callText operation ++ s!"a batch mixing {typeName} and {other}"
  | foreignRecord record typeName =>
    s!"{record} was built for a different {typeName} mapping than the registered one"
  | repeatedRecord record => callText "put_all" ++ record ++ " more than once"
  | notViewable typeName key view =>
    s!"{typeName} object {key.display} cannot be viewed as {view}"
  | undeclaredType typeName => s!"Type {typeName} is not declared"
  | stated text => text

/-- What stands in the way of an operation on an object in its present state. -/
inductive StateFault
  | finalized (typeName : String) (key : Key)
  | alreadyBuilt (typeName : String) (key : Key)
  | rowWidth (typeName : String) (found expected : Nat)
  | unusableKey (value : Value)
  | stated (text : String)
deriving DecidableEq

def StateFault.message : StateFault → String
  | finalized typeName key => s!"{typeName} builder for {key.display} is already finalized"
  | alreadyBuilt typeName key => s!"{typeName} builder for {key.display} was already built"
  | rowWidth typeName found expected =>
    s!"{typeName} row has {found} columns, expected {expected}"
  | unusableKey value => s!"cannot use {value.display} as an object key"
  | stated text => text

inductive ExecutionFault
  | unexpectedCount (found : Option Value)
  | rowWidth (expected found : Nat)
  | stated (text : String)
deriving DecidableEq

def ExecutionFault.message : ExecutionFault → String
  | unexpectedCount none => "unexpected count result: None"
  | unexpectedCount (some v) =>
    "unexpected count result: " ++ (Text.Inspected.apply "Some" v.inspect).flat
  | rowWidth expected found => s!"expected {expected} columns, got {found}"
  | stated text => text

inductive DatabaseFault
  | noRow
  | returned (code : Nat) (text : String)
  | undecodable (column : Nat) (text : String)
  | configuration (text : String)
deriving DecidableEq

def DatabaseFault.message : DatabaseFault → String
  | noRow => "no rows returned by a query that expected to return at least one row"
  | returned code text => s!"error returned from database: (code: {code}) {text}"
  | undecodable column text => s!"error occurred while decoding column {column}: {text}"
  | configuration text => s!"error with configuration: {text}"

def DatabaseFault.cause? : DatabaseFault → Option String
  | noRow => none
  | returned code text => some s!"(code: {code}) {text}"
  | undecodable _ text => some text
  | configuration text => some text

inductive ConfigFault
  | noUrl
  | unsupportedDatabase (name : String)
  | noConnections
  | noInList
  | repeatedType (typeName : String)
  | invalidType (typeName : String) (fault : ArgumentFault)
  | unknownDatabase (name : String)
  | stated (text : String)
deriving DecidableEq

/-- The store operation's own words for an unusable argument. -/
def illegalArgumentText (fault : ArgumentFault) : String :=
  "Illegal argument: " ++ fault.message

def ConfigFault.message : ConfigFault → String
  | noUrl => "database.url is required"
  | unsupportedDatabase name => s!"database.type must be 'sqlite', got '{name}'"
  | noConnections => "database.max_connections must be at least 1"
  | noInList => "storage.max_in_list must be at least 1"
  | repeatedType typeName => s!"type '{typeName}' is declared more than once"
  | invalidType typeName fault => s!"type '{typeName}' is invalid: {illegalArgumentText fault}"
  | unknownDatabase name =>
    s!"Unknown database type: '{name}'. Supported types: mssql, mysql, postgres, sqlite"
  | stated text => text

inductive Subject
  | whole
  | one (id : Key)
  | ids (keys : List Key)
  | records (keys : List Key)
  | stated (text : String)
deriving DecidableEq

def Subject.text : Subject → String
  | whole => ""
  | one id => " and \x7bid=" ++ id.display ++ "\x7d"
  | ids keys => " and \x7bids=" ++ Key.listText keys ++ "\x7d"
  | records keys => " and \x7bobjects=" ++ Key.listText keys ++ "\x7d"
  | stated text => text

inductive Error
  | illegalArgument (fault : ArgumentFault)
  | illegalState (fault : StateFault)
  | typeMismatch (field expected found : String)
  | storage (operation typeName : String) (subject : Subject) (source : Error)
  | database (fault : DatabaseFault)
  | execution (fault : ExecutionFault)
  | config (fault : ConfigFault)
  | io (text : String)
  | yaml
  | json (fault : Json.Fault)

namespace Error

def message : Error → String
  | illegalArgument fault => illegalArgumentText fault
  | illegalState fault => "Illegal state: " ++ fault.message
  | typeMismatch field expected found => s!"Field '{field}' holds {found}, expected {expected}"
  | storage operation typeName subject _ =>
    "Database error when calling ObjectStorage::" ++ operation ++ "(...) with \x7btype="
      ++ typeName ++ "\x7d" ++ subject.text
  | database fault => "Database error: " ++ fault.message
  | execution fault => "Execution error: " ++ fault.message
  | config fault => "Configuration error: " ++ fault.message
  | io text => "IO error: " ++ text
  | yaml => "YAML error"
  | json fault => "JSON error: " ++ fault.message

def causes : Error → List String
  | storage _ _ _ source => source.message :: source.causes
  | database fault => fault.message :: fault.cause?.toList
  | io text => [text]
  | json fault => [fault.message]
  | _ => []

def exitCode : Error → Nat
  | config _ | yaml | json _ => 1
  | illegalArgument _ | typeMismatch _ _ _ => 2
  | illegalState _ => 3
  | storage _ _ _ _ | database _ | execution _ => 4
  | io _ => 7

/-- The message followed by its numbered causes. -/
def report (e : Error) : String :=
  let lines := (e.causes.zipIdx 1).map fun (cause, depth) ↦ s!"\nCaused by:\n  {depth}: {cause}"
  "Error: " ++ e.message ++ "\n" ++ String.join lines

/-- Wraps a failure with the operation, type and subject it happened on. -/
def during (operation typeName : String) (subject : Subject) (source : Error) : Error :=
  storage operation typeName subject source

def ofArgument {α : Type} : Except ArgumentFault α → Except Error α
  | .ok a => .ok a
  | .error fault => .error (illegalArgument fault)

end Error

end RecordStore
