import RecordStore.Statement

namespace RecordStore

/-!
# Remembered statements

A `StatementBook` spells the statements of one layout in one dialect and remembers the texts it has
spelled, apart from those over very many keys. Asking twice gives the same text. A store asks for as
many keys as it holds, `request` takes any count that is given in figures.
-/

structure StatementBook where
  layout : Layout
  dialect : Dialect
  entries : List ((Statement × Nat) × Option String)

namespace StatementBook

/-- The greatest key count whose text is remembered. -/
def maxRemembered : Nat := 500

def empty (l : Layout) (d : Dialect) : StatementBook :=
  ⟨l, d, []⟩

def look (b : StatementBook) (s : Statement) (count : Nat) : Option String × StatementBook :=
  match b.entries.lookup (s, count) with
  | some text => (text, b)
  | none =>
    let text := b.layout.sql? b.dialect s count
    (text, if maxRemembered < count then b else { b with entries := ((s, count), text) :: b.entries })

def text (b : StatementBook) (s : Statement) (count : Nat) : String × StatementBook :=
  let (found, b) := b.look s count
  (found.getD "", b)

/-- The text of a sized statement, which needs at least one key. -/
def sized (b : StatementBook) (s : Statement) (count : Nat) :
    Except ArgumentFault String × StatementBook :=
  if count = 0 then (.error (.noKeys s.name b.layout.typeName), b)
  else
    let (found, b) := b.text s count
    (.ok found, b)

def statement (b : StatementBook) (s : Statement) (count : Nat) :
    Except ArgumentFault (Option String) × StatementBook :=
  if s.isSized then
    let (found, b) := b.sized s count
    (found.map some, b)
  else
    let (found, b) := b.look s 0
    (.ok found, b)

/-- The text of a statement for a count in figures. If it has another number of places it is too great
to be remembered. -/
def request (b : StatementBook) (s : Statement) (count : UInt64) :
    Except ArgumentFault (Option String) × StatementBook :=
  if s.isSized ∧ count ≠ 0 ∧ Layout.placesFor count ≠ count.toNat then
    (.ok (b.layout.sql? b.dialect s (Layout.placesFor count)), b)
  else b.statement s count.toNat

def selectAll (b : StatementBook) : String × StatementBook :=
  b.text .selectAll 0

def selectSome (b : StatementBook) (count : Nat) : Except ArgumentFault String × StatementBook :=
  b.sized .selectSome count

def selectKeys (b : StatementBook) (count : Nat) : Except ArgumentFault String × StatementBook :=
  b.sized .selectKeys count

def selectCount (b : StatementBook) : String × StatementBook :=
  b.text .selectCount 0

def insert (b : StatementBook) : String × StatementBook :=
  b.text .insert 0

def update (b : StatementBook) : Option String × StatementBook :=
  b.look .update 0

def delete (b : StatementBook) (count : Nat) : Except ArgumentFault String × StatementBook :=
  b.sized .delete count

def deleteAll (b : StatementBook) : String × StatementBook :=
  b.text .deleteAll 0

end StatementBook

end RecordStore
