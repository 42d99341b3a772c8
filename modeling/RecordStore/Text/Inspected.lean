namespace RecordStore.Text

/-!
# Inspected values

The structure of a value as a reader of logs wants to see it: leaves, constructors with arguments,
lists, and structures with named fields. It is written on one line or spread out, each part on
lines of its own.
-/

inductive Inspected
  | leaf (text : List Char)
  | apply (name : String) (argument : Inspected)
  | list (items : List Inspected)
  | fields (name : String) (members : List (String × Inspected))

/-- Four blanks in front of every line. -/
def indentFrom (atStart : Bool) : List Char → List Char
  | [] => []
  | c :: rest =>
    let body := c :: indentFrom (c == '\n') rest
    if atStart then ' ' :: ' ' :: ' ' :: ' ' :: body else body

namespace Inspected

mutual

def flatChars : Inspected → List Char
  | leaf text => text
  | apply name argument => name.toList ++ '(' :: (argument.flatChars ++ [')'])
  | list items => '[' :: (flatItems items ++ [']'])
  | fields name members => name.toList ++ " \x7b ".toList ++ flatMembers members ++ " \x7d".toList

def flatItems : List Inspected → List Char
  | [] => []
  | [item] => item.flatChars
  | item :: rest => item.flatChars ++ ',' :: ' ' :: flatItems rest

def flatMembers : List (String × Inspected) → List Char
  | [] => []
  | [(name, value)] => name.toList ++ ':' :: ' ' :: value.flatChars
  | (name, value) :: rest =>
    name.toList ++ ':' :: ' ' :: (value.flatChars ++ ',' :: ' ' :: flatMembers rest)

end

mutual

def spreadChars : Inspected → List Char
  | leaf text => text
  | apply name argument =>
    name.toList ++ '(' :: '\n' :: (indentFrom true (argument.spreadChars ++ [',', '\n']) ++ [')'])
  | list [] => ['[', ']']
  | list items => '[' :: '\n' :: (spreadItems items ++ [']'])
  | fields name members => name.toList ++ " \x7b\n".toList ++ spreadMembers members ++ ['}']

def spreadItems : List Inspected → List Char
  | [] => []
  | item :: rest => indentFrom true (item.spreadChars ++ [',', '\n']) ++ spreadItems rest

def spreadMembers : List (String × Inspected) → List Char
  | [] => []
  | (name, value) :: rest =>
    indentFrom true (name.toList ++ ':' :: ' ' :: (value.spreadChars ++ [',', '\n']))
      ++ spreadMembers rest

end

def ofText (s : String) : Inspected :=
  leaf s.toList

def flat (v : Inspected) : String :=
  String.ofList v.flatChars

def spread (v : Inspected) : String :=
  String.ofList v.spreadChars

end Inspected

end RecordStore.Text
