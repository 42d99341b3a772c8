namespace RecordStore

/-!
# Association lists in ascending order of their keys

Keys are texts in code-point order. Inserting under a key that is there already replaces its entry.
-/

namespace Ordered

variable {α : Type}

def insert (key : String) (value : α) : List (String × α) → List (String × α)
  | [] => [(key, value)]
  | (k, v) :: rest =>
    if key < k then (key, value) :: (k, v) :: rest
    else if key = k then (key, value) :: rest
    else (k, v) :: insert key value rest

/-- Of two entries under one key the later one stays. -/
def ofList (entries : List (String × α)) : List (String × α) :=
  entries.foldl (fun sorted entry ↦ insert entry.1 entry.2 sorted) []

@[simp] theorem insert_nil (key : String) (value : α) : insert key value [] = [(key, value)] := rfl

@[simp] theorem ofList_nil : ofList ([] : List (String × α)) = [] := rfl

theorem lookup_insert_self (key : String) (value : α) (entries : List (String × α)) :
    (insert key value entries).lookup key = some value := by
  induction entries with
  | nil => simp
  | cons entry rest ih =>
    obtain ⟨k, v⟩ := entry
    simp only [insert]
    split
    · simp
    · split
      · simp
      · next hne =>
        have : (key == k) = false := by simpa using hne
        rw [List.lookup_cons, this]
        exact ih

theorem lookup_insert_of_ne {key other : String} (h : other ≠ key) (value : α)
    (entries : List (String × α)) :
    (insert key value entries).lookup other = entries.lookup other := by
  induction entries with
  | nil =>
    have : (other == key) = false := by simpa using h
    rw [insert_nil, List.lookup_cons, this]
  | cons entry rest ih =>
    obtain ⟨k, v⟩ := entry
    have hk : (other == key) = false := by simpa using h
    simp only [insert]
    split
    · rw [List.lookup_cons, hk]
    · split
      · next heq =>
        subst heq
        rw [List.lookup_cons, List.lookup_cons, hk]
      · rw [List.lookup_cons, List.lookup_cons, ih]

end Ordered

end RecordStore
