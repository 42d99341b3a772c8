import RecordStore.Json.Basic
import RecordStore.Number.Integer
import RecordStore.Number.Text

namespace RecordStore.Json

/-!
# JSON text

`compact` writes a value on one line without blanks; `pretty` gives every item and member a line of
its own, indented by two blanks a level. An empty container is written the same way by both.
-/

/-- Control characters, the quote and the backslash are escaped. -/
def escape : Char → List Char
  | '"' => ['\\', '"']
  | '\\' => ['\\', '\\']
  | '\n' => ['\\', 'n']
  | '\r' => ['\\', 'r']
  | '\t' => ['\\', 't']
  | '\x08' => ['\\', 'b']
  | '\x0c' => ['\\', 'f']
  | c =>
    if c < ' ' then ['\\', 'u'] ++ padLeft 4 (Nat.toDigits 16 c.toNat) else [c]

def textChars (s : String) : List Char :=
  '"' :: (s.toList.flatMap escape ++ ['"'])

def boolChars (b : Bool) : List Char :=
  if b then "true".toList else "false".toList

mutual

def chars : Json → List Char
  | null => "null".toList
  | bool b => boolChars b
  | int n => integerChars n
  | float x => (x.layOut .json).toList
  | text s => textChars s
  | array items => '[' :: (itemsChars items ++ [']'])
  | object members => '{' :: (membersChars members ++ ['}'])

def itemsChars : List Json → List Char
  | [] => []
  | [item] => item.chars
  | item :: rest => item.chars ++ ',' :: itemsChars rest

def membersChars : List (String × Json) → List Char
  | [] => []
  | [(name, value)] => textChars name ++ ':' :: value.chars
  | (name, value) :: rest => textChars name ++ ':' :: (value.chars ++ ',' :: membersChars rest)

end

def compact (v : Json) : String :=
  String.ofList v.chars

def newLine (depth : Nat) : List Char :=
  '\n' :: List.replicate (2 * depth) ' '

mutual

def prettyChars (depth : Nat) : Json → List Char
  | array [] => ['[', ']']
  | object [] => ['{', '}']
  | array items => '[' :: (prettyItems (depth + 1) items ++ newLine depth ++ [']'])
  | object members => '{' :: (prettyMembers (depth + 1) members ++ newLine depth ++ ['}'])
  | null => "null".toList
  | bool b => boolChars b
  | int n => integerChars n
  | float x => (x.layOut .json).toList
  | text s => textChars s

def prettyItems (depth : Nat) : List Json → List Char
  | [] => []
  | [item] => newLine depth ++ item.prettyChars depth
  | item :: rest => newLine depth ++ item.prettyChars depth ++ ',' :: prettyItems depth rest

def prettyMembers (depth : Nat) : List (String × Json) → List Char
  | [] => []
  | [(name, value)] => newLine depth ++ textChars name ++ ':' :: ' ' :: value.prettyChars depth
  | (name, value) :: rest =>
    newLine depth ++ textChars name ++ ':' :: ' ' :: value.prettyChars depth
      ++ ',' :: prettyMembers depth rest

end

def pretty (v : Json) : String :=
  String.ofList (v.prettyChars 0)

@[simp] theorem itemsChars_nil : itemsChars [] = [] := by simp [itemsChars]

@[simp] theorem membersChars_nil : membersChars [] = [] := by simp [membersChars]

end RecordStore.Json
