import RecordStore.Text.CaseContext
import RecordStore.Text.CaseTable

namespace RecordStore.Text

/-!
# Upper and lower case

Case changes of a first character, and the lower-case form of a whole text, in which a capital
sigma at the end of a word becomes the final small sigma.
-/

/-- The image of a character under a table of several-character images and a table of runs. -/
def mapCase (several : List (Nat × List Nat)) (runs : List CaseRun) (c : Char) : List Char :=
  match several.lookup c.toNat with
  | some image => image.map Char.ofNat
  | none =>
    match runs.findSome? (·.image? c.toNat) with
    | some n => [Char.ofNat n]
    | none => [c]

def upperChar (c : Char) : List Char :=
  mapCase upperSeveral upperRuns c

def lowerChar (c : Char) : List Char :=
  mapCase lowerSeveral lowerRuns c

def capitalizeChars : List Char → List Char
  | [] => []
  | c :: rest => upperChar c ++ rest

def decapitalizeChars : List Char → List Char
  | [] => []
  | c :: rest => lowerChar c ++ rest

def capitalize (s : String) : String :=
  String.ofList (capitalizeChars s.toList)

/-- Whether the first character that counts for case is cased. -/
def meetsCased (s : List Char) : Bool :=
  match s.dropWhile isCaseIgnorable with
  | [] => false
  | c :: _ => isCased c

/-- The lower-case form of what follows `before`, which is held in reverse. -/
def lowerAfter (before : List Char) : List Char → List Char
  | [] => []
  | c :: rest =>
    let image :=
      if c = 'Σ' then
        if meetsCased before && !meetsCased rest then ['ς'] else ['σ']
      else lowerChar c
    image ++ lowerAfter (c :: before) rest

def lowercase (s : String) : String :=
  String.ofList (lowerAfter [] s.toList)

@[simp] theorem capitalizeChars_nil : capitalizeChars [] = [] := rfl

@[simp] theorem decapitalizeChars_nil : decapitalizeChars [] = [] := rfl

@[simp] theorem toList_capitalize (s : String) :
    (capitalize s).toList = capitalizeChars s.toList := by
  simp [capitalize]

end RecordStore.Text
