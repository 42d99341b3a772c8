import RecordStore.Json.Printer
import RecordStore.Schema
import RecordStore.Text.Quoted

namespace RecordStore.Json

/-!
# Reading a JSON value as data of a known shape

A value that does not have the wanted shape is refused with a `Fault` that names what was found and
what was wanted. Structures are read from an object, whose unknown members are passed over, or from
an array that lists the members in their declared order.
-/

inductive Fault
  | invalidType (found : Json) (wanted : String)
  | invalidValue (found : Json) (wanted : String)
  | invalidLength (length : Nat) (wanted : String)
  | missing (field : String)
  | unknownVariant (name : String) (known : List String)

def describe : Json → String
  | null => "null"
  | bool b => "boolean `" ++ String.ofList (boolChars b) ++ "`"
  | int n => s!"integer `" ++ integerText n ++ "`"
  | float x => "floating point `" ++ x.layOut .json ++ "`"
  | text s => "string " ++ Text.quoted s
  | array _ => "sequence"
  | object _ => "map"

def variantsText (known : List String) : String :=
  let ticked := known.map fun name ↦ "`" ++ name ++ "`"
  match ticked with
  | [] => "there are no variants"
  | [only] => "expected " ++ only
  | [first, second] => "expected " ++ first ++ " or " ++ second
  | _ => "expected one of " ++ String.intercalate ", " ticked

def Fault.message : Fault → String
  | .invalidType found wanted => "invalid type: " ++ found.describe ++ ", expected " ++ wanted
  | .invalidValue found wanted => "invalid value: " ++ found.describe ++ ", expected " ++ wanted
  | .invalidLength length wanted => s!"invalid length {length}, expected " ++ wanted
  | .missing field => "missing field `" ++ field ++ "`"
  | .unknownVariant name known => "unknown variant `" ++ name ++ "`, " ++ variantsText known

abbrev Reading (α : Type) := Json → Except Fault α

def readText : Reading String
  | text s => .ok s
  | v => .error (.invalidType v "a string")

def readBool : Reading Bool
  | bool b => .ok b
  | v => .error (.invalidType v "a boolean")

/-- A natural number below `limit`, which faults call `wanted`. -/
def readBounded (limit : Nat) (wanted : String) : Reading Nat
  | int n => if 0 ≤ n ∧ n < limit then .ok n.toNat else .error (.invalidValue (int n) wanted)
  | v => .error (.invalidType v wanted)

def readOption {α : Type} (inner : Reading α) : Reading (Option α)
  | null => .ok none
  | v => (inner v).map some

def readList {α : Type} (inner : Reading α) : Reading (List α)
  | array items => items.mapM inner
  | v => .error (.invalidType v "a sequence")

/-- One of the named variants, given by its name or as an object of that one name and null. -/
def readVariant {α : Type} (known : List (String × α)) : Reading α
  | text s => find s
  | object [(name, v)] => do
    let variant ← find name
    match v with
    | null => pure variant
    | _ => .error (.invalidType v "unit")
  | object members => .error (.invalidValue (object members) "map with a single key")
  | v => .error (.invalidType v "string or map")
where
  find (name : String) : Except Fault α :=
    match known.lookup name with
    | some variant => .ok variant
    | none => .error (.unknownVariant name (known.map Prod.fst))

/-- The members of an object, each read on its own. -/
def readMembers {α : Type} (inner : Reading α) : Reading (List (String × α))
  | object members => members.mapM fun (name, v) ↦ do pure (name, ← inner v)
  | v => .error (.invalidType v "a map")

/-- Puts in the members of an object that the structure knows, in the order of the object. -/
def storeKnown {σ : Type} (members : List (Member Json Fault σ)) :
    List (String × Json) → σ → Except Fault σ
  | [], s => .ok s
  | (name, v) :: rest, s => do
    match members.find? (·.name == name) with
    | some member => storeKnown members rest (← member.store v s)
    | none => storeKnown members rest s

/-- Puts in the items of an array in the declared order of the members. -/
def storeInOrder {σ : Type} (wanted : String) (place : Nat) :
    List (Member Json Fault σ) → List Json → σ → Except Fault σ
  | [], _, s => .ok s
  | member :: members, v :: rest, s => do
    storeInOrder wanted (place + 1) members rest (← member.store v s)
  | member :: members, [], s =>
    if member.optional then storeInOrder wanted (place + 1) members [] s
    else .error (.invalidLength place wanted)

/-- How a structure called `name` is read on top of `empty`. -/
def readStructure {σ : Type} (name : String) (members : List (Member Json Fault σ)) (empty : σ) : Reading σ
  | object present => do
    let s ← storeKnown members present empty
    match members.find? fun m ↦ !m.optional && (present.lookup m.name).isNone with
    | some absent => .error (.missing absent.name)
    | none => pure s
  | array items => do
    let wanted := s!"struct {name} with {members.length} element"
      ++ (if members.length = 1 then "" else "s")
    let s ← storeInOrder wanted 0 members items empty
    if members.length < items.length then
      .error (.invalidLength items.length "fewer elements in array")
    else pure s
  | v => .error (.invalidType v s!"struct {name}")

def format : Format Json Fault where
  text := readText
  bool := readBool
  bounded := readBounded
  option := readOption
  list := readList
  variant := readVariant
  members := readMembers
  record := readStructure

end RecordStore.Json
