namespace RecordStore.Text

/-!
# Finding a pattern in a text
-/

/-- The part of a text before the first occurrence of a pattern, and what follows the pattern. -/
def cutAt? (pattern : List Char) : List Char → Option (List Char × List Char)
  | [] => if pattern = [] then some ([], []) else none
  | c :: rest =>
    match pattern.isPrefixOf? (c :: rest) with
    | some after => some ([], after)
    | none => (cutAt? pattern rest).map fun (before, after) ↦ (c :: before, after)

def mentions (pattern : String) (s : String) : Bool :=
  (cutAt? pattern.toList s.toList).isSome

/-- A text without any number of a repeated head. -/
def dropHeads (head : List Char) (s : List Char) : List Char :=
  match head.isPrefixOf? s with
  | some rest => if rest.length < s.length then dropHeads head rest else s
  | none => s
termination_by s.length

/-- Whether two texts differ at most in the case of their ASCII letters. -/
def sameLetters (s t : String) : Bool :=
  s.toList.map Char.toLower == t.toList.map Char.toLower

@[simp] theorem sameLetters_self (s : String) : sameLetters s s = true := by
  simp [sameLetters]

theorem sameLetters_comm (s t : String) : sameLetters s t = sameLetters t s := by
  simp only [sameLetters]
  exact Bool.beq_comm

end RecordStore.Text
