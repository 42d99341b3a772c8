import RecordStore.Layout
import RecordStore.Sql.Command

namespace RecordStore

open Sql (Command)

/-!
# Statements of a layout

The fixed set of statements that a record type is stored with. Some are sized: they take as many
parameters as there are keys.
-/

inductive Statement
  | selectAll
  | selectSome
  | selectKeys
  | selectCount
  | insert
  | update
  | delete
  | deleteAll
deriving DecidableEq

namespace Statement

def name : Statement → String
  | selectAll => "select_all"
  | selectSome => "select_some"
  | selectKeys => "select_keys"
  | selectCount => "select_count"
  | insert => "insert"
  | update => "update"
  | delete => "delete"
  | deleteAll => "delete_all"

def all : List Statement :=
  [selectAll, selectSome, selectKeys, selectCount, insert, update, delete, deleteAll]

def isSized : Statement → Bool
  | selectSome | selectKeys | delete => true
  | _ => false

def ofName? (s : String) : Option Statement :=
  all.find? (·.name == s)

theorem mem_all (s : Statement) : s ∈ all := by
  cases s <;> decide

end Statement

namespace Layout

def table (l : Layout) : TableName :=
  ⟨l.schema, l.typeName⟩

/-- The command of a statement with `count` places for keys, such as the number of keys in a list.
There is nothing to update without fields. -/
def command? (l : Layout) (s : Statement) (count : Nat) : Option Command :=
  match s with
  | .selectAll => some (.select l.columns l.table none)
  | .selectSome => some (.select l.columns l.table (some ⟨l.keyColumn, count⟩))
  | .selectKeys => some (.select [l.keyColumn] l.table (some ⟨l.keyColumn, count⟩))
  | .selectCount => some (.count l.table)
  | .insert => some (.insert l.table l.columns (l.fieldCount + 1))
  | .update => if l.fields = [] then none else some (.update l.table l.fieldNames l.keyColumn)
  | .delete => some (.delete l.table (some ⟨l.keyColumn, count⟩))
  | .deleteAll => some (.delete l.table none)

def sql? (l : Layout) (d : Dialect) (s : Statement) (count : Nat) : Option String :=
  (l.command? s count).map (Command.render d)

/-- The number of places for a count of keys that is given in figures. The places end before the
number after the last one, which is reckoned in a machine word, so there are none for the greatest
count. -/
def placesFor (count : UInt64) : Nat :=
  (1 + count).toNat - 1

end Layout

end RecordStore
