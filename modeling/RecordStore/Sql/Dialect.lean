import RecordStore.Error
import RecordStore.Text.Case

namespace RecordStore

/-!
# SQL dialects

The four dialects differ in how an identifier is delimited and in how the places of parameters are
written. A closing delimiter inside an identifier is doubled.
-/

inductive Dialect
  | mssql
  | mysql
  | postgres
  | sqlite
deriving DecidableEq

structure Quoting where
  opening : Char
  closing : Char
deriving DecidableEq

namespace Quoting

def doubleQuote : Quoting := ⟨'"', '"'⟩

def backtick : Quoting := ⟨Char.ofNat 96, Char.ofNat 96⟩

def bracket : Quoting := ⟨'[', ']'⟩

/-- The text with every closing delimiter doubled. -/
def double (q : Quoting) : List Char → List Char
  | [] => []
  | c :: rest => if c = q.closing then c :: c :: q.double rest else c :: q.double rest

def wrap (q : Quoting) (name : List Char) : List Char :=
  q.opening :: (q.double name ++ [q.closing])

def quote (q : Quoting) (name : String) : String :=
  String.ofList (q.wrap name.toList)

@[simp] theorem double_nil (q : Quoting) : q.double [] = [] := rfl

theorem double_cons_closing (q : Quoting) (rest : List Char) :
    q.double (q.closing :: rest) = q.closing :: q.closing :: q.double rest := by
  simp [double]

theorem double_cons_of_ne (q : Quoting) {c : Char} (h : c ≠ q.closing) (rest : List Char) :
    q.double (c :: rest) = c :: q.double rest := by
  simp [double, h]

@[simp] theorem double_append (q : Quoting) (s t : List Char) :
    q.double (s ++ t) = q.double s ++ q.double t := by
  induction s with
  | nil => rfl
  | cons c s ih => by_cases h : c = q.closing <;> simp [double, h, ih]

end Quoting

/-- A table, in a schema if one is given. -/
structure TableName where
  schema : Option String
  name : String
deriving DecidableEq

namespace Dialect

def name : Dialect → String
  | mssql => "mssql"
  | mysql => "mysql"
  | postgres => "postgres"
  | sqlite => "sqlite"

def names : List (String × Dialect) :=
  [("mssql", mssql), ("sqlserver", mssql), ("sql_server", mssql), ("mysql", mysql),
    ("mariadb", mysql), ("postgres", postgres), ("postgresql", postgres), ("pg", postgres),
    ("sqlite", sqlite), ("sqlite3", sqlite)]

/-- The dialect of a database called by one of its names, in any case. -/
def ofDatabase (name : String) : Except ConfigFault Dialect :=
  let lowered := Text.lowercase name
  match names.lookup lowered with
  | some d => .ok d
  | none => .error (.unknownDatabase lowered)

def quoting : Dialect → Quoting
  | mssql => .bracket
  | mysql => .backtick
  | postgres => .doubleQuote
  | sqlite => .doubleQuote

def placeHead : Dialect → List Char
  | mssql => ['@', 'P']
  | mysql => ['?']
  | postgres => ['$']
  | sqlite => ['?']

def numbersPlaces : Dialect → Bool
  | mysql => false
  | _ => true

def placeChars (d : Dialect) (index : Nat) : List Char :=
  d.placeHead ++ if d.numbersPlaces then Nat.toDigits 10 index else []

def placeholder (d : Dialect) (index : Nat) : String :=
  String.ofList (d.placeChars index)

def quote (d : Dialect) (name : String) : String :=
  d.quoting.quote name

def qualify (d : Dialect) (table : TableName) : String :=
  match table.schema with
  | some schema => d.quote schema ++ "." ++ d.quote table.name
  | none => d.quote table.name

end Dialect

inductive Isolation
  | readUncommitted
  | readCommitted
  | repeatableRead
  | serializable
deriving DecidableEq

def Isolation.sql : Isolation → String
  | readUncommitted => "READ UNCOMMITTED"
  | readCommitted => "READ COMMITTED"
  | repeatableRead => "REPEATABLE READ"
  | serializable => "SERIALIZABLE"

end RecordStore
