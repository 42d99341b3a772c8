import RecordStore.Sqlite.Affinity
import RecordStore.Sqlite.Refusal

namespace RecordStore.Sqlite

open Text (sameLetters)

/-!
# Tables

A table holds rows of cells in the order in which they were inserted; an integer key puts the rows
in ascending order of that key. A row is checked before it is stored: the integer key first, then
required cells, then uniqueness.
-/

inductive ColumnRole
  | plain
  | unique
  | primary
  /-- An integer key, which orders the rows. -/
  | rowId
deriving DecidableEq

structure Column where
  name : String
  affinity : Affinity
  role : ColumnRole
  isRequired : Bool
  /-- How wide a cell is reckoned to be when a scan is planned. -/
  width : Nat
deriving DecidableEq

namespace Column

def constraintWords : List String := ["PRIMARY", "NOT", "UNIQUE", "NULL"]

/-- The column that a declaration such as `TEXT NOT NULL` describes. -/
def ofDeclaration (name declaration : String) : Column :=
  let upper := declaration.toList.map Char.toUpper
  let words := (upper.splitBy fun c d ↦ (c == ' ') == (d == ' ')).map String.ofList
  let words := words.filter fun w ↦ !w.toList.all (· == ' ')
  let type := String.intercalate " " (words.takeWhile (· ∉ constraintWords))
  let affinity := Affinity.ofTypeName type
  let role : ColumnRole :=
    if "PRIMARY" ∈ words then (if type = "INTEGER" then .rowId else .primary)
    else if "UNIQUE" ∈ words then .unique
    else .plain
  { name, affinity, role, isRequired := "NOT" ∈ words
    width := if affinity = .text ∨ affinity = .blob then 5 else 1 }

def isPrimary (c : Column) : Bool :=
  c.role == .primary || c.role == .rowId

def isIndexed (c : Column) : Bool :=
  c.role != .plain

end Column

structure Table where
  name : String
  columns : List Column
  rows : List (List Cell)
deriving DecidableEq

namespace Table

def columnIndex? (t : Table) (name : String) : Option Nat :=
  t.columns.findIdx? (sameLetters ·.name name)

def rowIdIndex? (t : Table) : Option Nat :=
  t.columns.findIdx? (·.role == .rowId)

def cell (row : List Cell) (index : Nat) : Cell :=
  row.getD index .null

/-- Rows in ascending order of one cell, equal ones in the order they had. -/
def sortedBy (index : Nat) (rows : List (List Cell)) : List (List Cell) :=
  rows.mergeSort fun r s ↦ !(cell s index).precedes (cell r index)

/-- Rows in the order in which the table holds them. -/
def inOrder (t : Table) (rows : List (List Cell)) : List (List Cell) :=
  match t.rowIdIndex? with
  | some index => sortedBy index rows
  | none => rows

/-- The integer that follows the greatest key, or one. -/
def nextKey (t : Table) (index : Nat) : Cell :=
  match t.rows.map (cell · index) |>.getLast? with
  | some (.integer n) => .integer (n + 1)
  | _ => .integer 1

/-- A cell for the integer key: a number that is an integer, or a fresh key in place of NULL. -/
def keyCell (t : Table) (index : Nat) (c : Cell) : Except Refusal Cell :=
  match Affinity.toNumber c with
  | .null => .ok (t.nextKey index)
  | .integer n => .ok (.integer n)
  | _ => .error .notKeyInteger

/-- Puts the cell of the integer key in order before anything else is looked at. -/
def settleKey (t : Table) (row : List Cell) : Except Refusal (List Cell) :=
  match t.rowIdIndex? with
  | some index => (t.keyCell index (cell row index)).map (row.set index)
  | none => .ok row

def convert (t : Table) (row : List Cell) : List Cell :=
  (t.columns.zip row).map fun (column, c) ↦ column.affinity.apply c

def checkRequired (t : Table) (row : List Cell) : Except Refusal Unit :=
  match (t.columns.zip row).find? fun (column, c) ↦ column.isRequired && c == .null with
  | some (column, _) => .error (.missingValue t.name column.name)
  | none => .ok ()

/-- The columns in which cells must differ, in the order in which they are looked at: the integer
key, and then the last declared first. -/
def uniqueColumns (t : Table) : List (Column × Nat) :=
  let indexed := t.columns.zipIdx
  indexed.filter (·.1.role == .rowId)
    ++ (indexed.filter fun (c, _) ↦ c.role == .primary || c.role == .unique).reverse

/-- Whether no other row holds the same cell in a column that must be unique. -/
def checkUnique (t : Table) (others : List (List Cell)) (row : List Cell) : Except Refusal Unit :=
  match t.uniqueColumns.find? fun (_, i) ↦
      others.any fun other ↦ (cell other i).matchesCell (cell row i) with
  | some (column, _) =>
    if column.isPrimary then .error (.repeatedKey t.name column.name)
    else .error (.repeatedValue t.name column.name)
  | none => .ok ()

/-- The row as it can stand beside `others`. -/
def accept (t : Table) (others : List (List Cell)) (row : List Cell) : Except Refusal (List Cell) := do
  let row := t.convert (← t.settleKey row)
  t.checkRequired row
  t.checkUnique others row
  pure row

def insert (t : Table) (row : List Cell) : Except Refusal Table := do
  let row ← t.accept t.rows row
  pure { t with rows := t.inOrder (t.rows ++ [row]) }

/-- Changes the rows that are selected, one after the other, and counts them. -/
def updateFrom (t : Table) (selects : List Cell → Bool) (change : List Cell → List Cell) :
    List (List Cell) → List (List Cell) → Except Refusal (List (List Cell) × Nat)
  | done, [] => .ok (done, 0)
  | done, row :: rest =>
    if selects row then do
      let changed ← t.accept (done ++ rest) (change row)
      let (rows, count) ← t.updateFrom selects change (done ++ [changed]) rest
      pure (rows, count + 1)
    else t.updateFrom selects change (done ++ [row]) rest

def update (t : Table) (selects : List Cell → Bool) (change : List Cell → List Cell) :
    Except Refusal (Table × Nat) := do
  let (rows, count) ← t.updateFrom selects change [] t.rows
  pure ({ t with rows := t.inOrder rows }, count)

def delete (t : Table) (selects : List Cell → Bool) : Table × Nat :=
  let (gone, kept) := t.rows.partition selects
  ({ t with rows := kept }, gone.length)

/-- The column whose index alone can answer for the columns at `indices` with less reading than the
table itself. -/
def coveringColumn? (t : Table) (indices : List Nat) : Option Nat :=
  let rowId := t.rowIdIndex?
  let whole := t.columns.foldr (·.width + ·) (if rowId.isSome then 0 else 1)
  let covering := t.uniqueColumns.filter fun (c, i) ↦
    c.role != .rowId && indices.all (fun j ↦ j == i || rowId == some j) && c.width + 1 < whole
  let narrow := covering.filter (·.1.width == 1)
  ((narrow ++ covering).head?).map Prod.snd

/-- Every row, in the order in which a query for the columns at `indices` meets them. -/
def scan (t : Table) (indices : List Nat) : List (List Cell) :=
  match t.coveringColumn? indices with
  | some index => sortedBy index t.rows
  | none => t.rows

end Table

end RecordStore.Sqlite
