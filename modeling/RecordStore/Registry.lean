import RecordStore.Ordered
import RecordStore.StatementBook

namespace RecordStore

/-!
# The registry of record types

The layouts of the types that are in use, by type name, and a statement book for every layout and
dialect in use. The first declaration of a name that resolves stays for good.
-/

structure Registry where
  layouts : List (String × Layout)
  books : List ((String × Dialect) × StatementBook)

namespace Registry

def empty : Registry :=
  ⟨[], []⟩

def get? (r : Registry) (typeName : String) : Option Layout :=
  r.layouts.lookup typeName

/-- Registers a type and returns the layout that its name now stands for. -/
def register (r : Registry) (t : RecordType) : Except ArgumentFault Layout × Registry :=
  match r.get? t.name with
  | some l => (.ok l, r)
  | none =>
    match Layout.resolve t with
    | .ok l => (.ok l, { r with layouts := Ordered.insert t.name l r.layouts })
    | .error fault => (.error fault, r)

/-- The layout of a registered type; `operation` is what it is needed for. -/
def require (r : Registry) (typeName operation : String) : Except ArgumentFault Layout :=
  match r.get? typeName with
  | some l => .ok l
  | none => .error (.unregistered operation typeName)

def typeNames (r : Registry) : List String :=
  r.layouts.map Prod.fst

/-- The statement book of a layout in a dialect, opened on first use. -/
def book (r : Registry) (l : Layout) (d : Dialect) : StatementBook × Registry :=
  match r.books.lookup (l.typeName, d) with
  | some b => (b, r)
  | none =>
    let b := StatementBook.empty l d
    (b, { r with books := ((l.typeName, d), b) :: r.books })

def shelve (r : Registry) (typeName : String) (d : Dialect) (b : StatementBook) : Registry :=
  { r with books := ((typeName, d), b) :: r.books.filter (·.1 != (typeName, d)) }

def statement (r : Registry) (l : Layout) (d : Dialect) (s : Statement) (count : Nat) :
    Except ArgumentFault (Option String) × Registry :=
  let (b, r) := r.book l d
  let (found, b) := b.statement s count
  (found, r.shelve l.typeName d b)

/-- The text of a statement for a count in figures. -/
def request (r : Registry) (l : Layout) (d : Dialect) (s : Statement) (count : UInt64) :
    Except ArgumentFault (Option String) × Registry :=
  let (b, r) := r.book l d
  let (found, b) := b.request s count
  (found, r.shelve l.typeName d b)

end Registry

end RecordStore
