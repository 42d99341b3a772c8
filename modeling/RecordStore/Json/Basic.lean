import RecordStore.Number.Double
import RecordStore.Ordered

namespace RecordStore

/-!
# JSON values

Integers and doubles are told apart. The members of an object stand in ascending order of their
names when it is built by `Json.ofMembers`.
-/

inductive Json
  | null
  | bool (b : Bool)
  | int (n : Int)
  | float (x : Double)
  | text (s : String)
  | array (items : List Json)
  | object (members : List (String × Json))

namespace Json

/-- An object with its members in order; of two members of one name the later one stays. -/
def ofMembers (members : List (String × Json)) : Json :=
  object (Ordered.ofList members)

/-- Numbers that are not finite have no written form. -/
def ofDouble (x : Double) : Json :=
  if x.isFinite then float x else null

def ofOption {α : Type} (f : α → Json) : Option α → Json
  | some a => f a
  | none => null

def member? (name : String) : Json → Option Json
  | object members => members.lookup name
  | _ => none

end Json

end RecordStore
