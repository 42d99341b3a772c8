namespace RecordStore

/-!
# Reading data of a known shape

A `Format` reads the building blocks of structured data from values of a type `V`; reading fails
with an `ε`. What shape the data has is said once, for any format.
-/

/-- A member of a structure of type `σ`: its name, how it is put into the structure, and whether it
may be absent. -/
structure Member (V ε σ : Type) where
  name : String
  store : V → σ → Except ε σ
  optional : Bool

structure Format (V ε : Type) where
  text : V → Except ε String
  bool : V → Except ε Bool
  /-- A natural number below a limit, which errors call by a name. -/
  bounded : Nat → String → V → Except ε Nat
  option : {α : Type} → (V → Except ε α) → V → Except ε (Option α)
  list : {α : Type} → (V → Except ε α) → V → Except ε (List α)
  /-- One of several alternatives, by its name. -/
  variant : {α : Type} → List (String × α) → V → Except ε α
  /-- Values of one kind by their names, in ascending order of the names. -/
  members : {α : Type} → (V → Except ε α) → V → Except ε (List (String × α))
  /-- A structure called by a name, put together on top of an empty one. -/
  record : {σ : Type} → String → List (Member V ε σ) → σ → V → Except ε σ

namespace Format

variable {V ε σ α : Type}

def member (name : String) (optional : Bool) (inner : V → Except ε α) (put : α → σ → σ) :
    Member V ε σ :=
  ⟨name, fun v s ↦ (inner v).map fun a ↦ put a s, optional⟩

end Format

end RecordStore
