import RecordStore.Error

namespace RecordStore.Sqlite

/-!
# Refused commands

Why the database does not carry out a command. Some refusals are found before the command runs and
others by a row it writes.
-/

inductive Refusal
  | unreadable
  | noTable (table : String)
  | noColumn (column : String)
  | noInsertColumn (table column : String)
  | tableExists (name : String)
  | reservedName (name : String)
  | repeatedColumn (column : String)
  | repeatedPrimary (table : String)
  | tooManyPlaces
  | notKeyInteger
  | missingValue (table column : String)
  | repeatedKey (table column : String)
  | repeatedValue (table column : String)
deriving DecidableEq

namespace Refusal

/-- The greatest number of a parameter. -/
def maxPlaces : Nat := 32766

def code : Refusal → Nat
  | notKeyInteger => 20
  | missingValue _ _ => 1299
  | repeatedKey _ _ => 1555
  | repeatedValue _ _ => 2067
  | _ => 1

def text : Refusal → String
  | unreadable => "incomplete input"
  | noTable table => "no such table: " ++ table
  | noColumn column => "no such column: " ++ column
  | noInsertColumn table column => "table " ++ table ++ " has no column named " ++ column
  | tableExists name => "table " ++ name ++ " already exists"
  | reservedName name => "object name reserved for internal use: " ++ name
  | repeatedColumn column => "duplicate column name: " ++ column
  | repeatedPrimary table => "table \"" ++ table ++ "\" has more than one primary key"
  | tooManyPlaces => s!"variable number must be between ?1 and ?{maxPlaces}"
  | notKeyInteger => "datatype mismatch"
  | missingValue table column => s!"NOT NULL constraint failed: {table}.{column}"
  | repeatedKey table column => s!"UNIQUE constraint failed: {table}.{column}"
  | repeatedValue table column => s!"UNIQUE constraint failed: {table}.{column}"

def isOfRow : Refusal → Bool
  | notKeyInteger | missingValue _ _ | repeatedKey _ _ | repeatedValue _ _ => true
  | _ => false

def toError (r : Refusal) : Error :=
  .database (.returned r.code r.text)

end Refusal

end RecordStore.Sqlite
