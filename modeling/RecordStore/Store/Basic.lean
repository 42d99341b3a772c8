import RecordStore.Program
import RecordStore.View

namespace RecordStore

/-!
# Stores

A store knows the registered types, how many keys a read statement may list, and whether a trigger
is installed whose hooks are to be called around writes.
-/

structure StoreOptions where
  maxInList : Nat
deriving DecidableEq

/-- At least one key stands in a list. -/
def StoreOptions.ofLimit (limit : Nat) : StoreOptions :=
  ⟨max limit 1⟩

def StoreOptions.default : StoreOptions :=
  ⟨500⟩

structure Store where
  registry : Registry
  options : StoreOptions
  hasTrigger : Bool

/-- A list cut into pieces of `size` items, the last of which may be shorter. A size of zero counts
as one. -/
def chunks {α : Type} (size : Nat) : List α → List (List α)
  | [] => []
  | x :: rest => (x :: rest.take (size - 1)) :: chunks size (rest.drop (size - 1))
termination_by xs => xs.length
decreasing_by
  simp only [List.length_drop, List.length_cons]
  omega

theorem flatten_chunks {α : Type} (size : Nat) (xs : List α) :
    (chunks size xs).flatten = xs := by
  induction xs using chunks.induct size with
  | case1 => simp [chunks]
  | case2 x rest ih => simp [chunks, ih]

namespace Store

def require (s : Store) (typeName operation : String) : Action Layout :=
  .ofArgument (s.registry.require typeName operation)

def checkKeys (l : Layout) : List Key → Except ArgumentFault Unit
  | [] => .ok ()
  | key :: rest => do
    l.checkKey key
    checkKeys l rest

def announce (s : Store) (notices : List Notice) : Action Unit :=
  if s.hasTrigger then .tellAll notices else pure ()

def materialize (l : Layout) : List Row → Action (List Record)
  | [] => pure []
  | row :: rest => do
    Action.tell (.materializing l.typeName row)
    let r ← Action.ofExcept (Record.ofRow l row)
    return r :: (← materialize l rest)

end Store

end RecordStore
