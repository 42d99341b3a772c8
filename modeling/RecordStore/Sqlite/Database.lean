import RecordStore.Sql.Command
import RecordStore.Sqlite.Table

namespace RecordStore.Sqlite

open Sql (Command KeyFilter)
open Text (sameLetters)

/-!
# Databases

A database is a list of tables, all of them in the schema `main`. Carrying out a command yields the
rows it reads, the number of rows it changes and the database afterwards. Names are found without
regard to the case of ASCII letters. Where a query names no column of its table, the name stands for
itself as a text.
-/

abbrev Database := List Table

/-- What a carried-out command leaves. A query changes no count. -/
structure Effect where
  rows : List (List Cell)
  changed : Option Nat
  database : Database

namespace Database

def mainSchema : String := "main"

def writtenName (t : TableName) : String :=
  match t.schema with
  | some schema => schema ++ "." ++ t.name
  | none => t.name

def inMain (t : TableName) : Bool :=
  match t.schema with
  | some schema => sameLetters schema mainSchema
  | none => true

def find (d : Database) (t : TableName) : Except Refusal Table :=
  match d.find? fun table ↦ inMain t && sameLetters table.name t.name with
  | some table => .ok table
  | none => .error (.noTable (writtenName t))

def replace (d : Database) (table : Table) : Database :=
  d.map fun t ↦ if t.name = table.name then table else t

/-- Column after column, no name may come twice and no second key may be declared. -/
def checkColumns (table : String) (seen : List Column) : List Column → Except Refusal Unit
  | [] => .ok ()
  | c :: rest =>
    if seen.any (sameLetters ·.name c.name) then .error (.repeatedColumn c.name)
    else if c.isPrimary && seen.any Column.isPrimary then .error (.repeatedPrimary table)
    else checkColumns table (c :: seen) rest

/-- Adds an empty table; every column is a name and a declaration. -/
def create (d : Database) (name : String) (columns : List (String × String)) :
    Except Refusal Database :=
  let table : Table := ⟨name, columns.map fun (c, declaration) ↦ .ofDeclaration c declaration, []⟩
  if ("sqlite_".toList.isPrefixOf (name.toList.map Char.toLower)) then .error (.reservedName name)
  else if d.any (sameLetters ·.name name) then
    .error (.tableExists (Quoting.doubleQuote.quote name))
  else do
    checkColumns name [] table.columns
    pure (d ++ [table])

/-- What a name in a query stands for. -/
inductive Operand
  | column (index : Nat) (affinity : Affinity)
  | literal (s : String)
deriving DecidableEq

def operand (t : Table) (name : String) : Operand :=
  match t.columnIndex? name with
  | some index => .column index ((t.columns[index]?.map Column.affinity).getD .blob)
  | none => .literal name

namespace Operand

def index? : Operand → Option Nat
  | column index _ => some index
  | literal _ => none

def cell (row : List Cell) : Operand → Cell
  | column index _ => Table.cell row index
  | literal s => .text s

/-- Whether the operand equals a parameter, which takes the affinity of a column first. -/
def equals (row : List Cell) (parameter : Cell) : Operand → Bool
  | column index affinity =>
    (Table.cell row index).matchesCell (affinity.applyForComparison parameter)
  | literal s => (Cell.text s).matchesCell parameter

end Operand

/-- The cell of a parameter, counted from one. A parameter that is not given is NULL. -/
def parameter (params : List Cell) (place : Nat) : Cell :=
  params.getD (place - 1) .null

def passes (t : Table) (params : List Cell) (filter : KeyFilter) (row : List Cell) : Bool :=
  (List.range filter.count).any fun i ↦ (operand t filter.key).equals row (parameter params (i + 1))

/-- The rows of a filter; an indexed key gives them in its own order. -/
def filtered (t : Table) (params : List Cell) (filter : KeyFilter) : List (List Cell) :=
  let found := t.rows.filter (passes t params filter)
  match operand t filter.key with
  | .column index _ =>
    if (t.columns[index]?.map Column.isIndexed).getD false then Table.sortedBy index found else found
  | .literal _ => found

def placeCount : Command → Nat
  | .select _ _ filter => (filter.map KeyFilter.count).getD 0
  | .count _ => 0
  | .insert _ _ places => places
  | .update _ columns _ => columns.length + 1
  | .delete _ filter => (filter.map KeyFilter.count).getD 0

/-- The row that an insertion writes into a table: of two columns of one name the first counts. -/
def insertedRow (t : Table) (targets : List Nat) (params : List Cell) : List Cell :=
  (List.range t.columns.length).map fun index ↦
    match targets.findIdx? (· == index) with
    | some place => parameter params (place + 1)
    | none => .null

/-- The row after an update: of two columns of one name the last counts. -/
def updatedRow (targets : List Nat) (params : List Cell) (row : List Cell) : List Cell :=
  (targets.zipIdx 1).foldl (fun row (index, place) ↦ row.set index (parameter params place)) row

def targets (t : Table) (columns : List String) (missing : String → Refusal) :
    Except Refusal (List Nat) :=
  columns.mapM fun c ↦
    match t.columnIndex? c with
    | some index => .ok index
    | none => .error (missing c)

def runSelect (d : Database) (columns : List String) (t : Table) (filter : Option KeyFilter)
    (params : List Cell) : Effect :=
  let operands := columns.map (operand t)
  let rows :=
    match filter with
    | some f => filtered t params f
    | none => t.scan (operands.filterMap Operand.index?)
  ⟨rows.map fun row ↦ operands.map (Operand.cell row), none, d⟩

def run (d : Database) (command : Command) (params : List Cell) : Except Refusal Effect := do
  if Refusal.maxPlaces < placeCount command then throw .tooManyPlaces
  match command with
  | .select columns table filter => do
    let t ← d.find table
    pure (runSelect d columns t filter params)
  | .count table => do
    let t ← d.find table
    pure ⟨[[.integer (Int64.ofNat t.rows.length)]], none, d⟩
  | .insert table columns _ => do
    let t ← d.find table
    let places ← targets t columns (.noInsertColumn (writtenName table))
    let t ← t.insert (insertedRow t places params)
    pure ⟨[], some 1, d.replace t⟩
  | .update table columns key => do
    let t ← d.find table
    let places ← targets t columns .noColumn
    let selects row := (operand t key).equals row (parameter params (columns.length + 1))
    let (t, count) ← t.update selects (updatedRow places params)
    pure ⟨[], some count, d.replace t⟩
  | .delete table filter => do
    let t ← d.find table
    let selects row :=
      match filter with
      | some f => passes t params f row
      | none => true
    let (t, count) := t.delete selects
    pure ⟨[], some count, d.replace t⟩

end Database

end RecordStore.Sqlite
