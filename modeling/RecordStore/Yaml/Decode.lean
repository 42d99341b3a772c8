import RecordStore.Number.Hex
import RecordStore.Number.Power
import RecordStore.Ordered
import RecordStore.Schema
import RecordStore.Yaml.Document

namespace RecordStore.Yaml

/-!
# Reading a document as data of a known shape

What a scalar means depends on what is wanted. Any scalar serves as a text; a number, a truth value
and the absent value must be plain. An empty plain scalar is also the empty list, the structure with
nothing in it and the empty collection of members.
-/

abbrev Reading (α : Type) := Node → Except Unit α

def refuse {α : Type} : Except Unit α :=
  .error ()

def orRefuse {α : Type} : Option α → Except Unit α
  | some a => .ok a
  | none => refuse

def boolTag : String := "tag:yaml.org,2002:bool"

def intTag : String := "tag:yaml.org,2002:int"

def nullTag : String := "tag:yaml.org,2002:null"

/-- Whether a scalar can be anything but a text: it is plain, or literal with the tag of what is
wanted. -/
def isBare (wanted : String) (tag : Option String) (style : ScalarStyle) : Bool :=
  style == .plain || (style == .literal && tag == some wanted)

def isNull (text : String) : Bool :=
  text ∈ ["null", "Null", "NULL", "~"]

def boolOf? (text : String) : Option Bool :=
  if text ∈ ["true", "True", "TRUE"] then some true
  else if text ∈ ["false", "False", "FALSE"] then some false
  else none

/-- The number that digits of a base write. -/
def digitsOf? (base : Nat) (s : List Char) : Option Nat :=
  if s = [] then none
  else s.foldlM (fun n c ↦ (hexValue? c).bind fun d ↦
    if d < base then some (base * n + d) else none) 0

/-- The number after `0x`, `0o` or `0b`. -/
def basedNumber? : List Char → Option Nat
  | '0' :: 'x' :: digits => digitsOf? 16 digits
  | '0' :: 'o' :: digits => digitsOf? 8 digits
  | '0' :: 'b' :: digits => digitsOf? 2 digits
  | _ => none

/-- The natural number that a plain scalar writes. Decimal digits do not begin with a needless
zero. -/
def numberOf? (s : List Char) : Option Nat :=
  let digits := if s.head? = some '+' then s.drop 1 else s
  match basedNumber? digits with
  | some n => some n
  | none => if digits.head? = some '0' ∧ digits ≠ ['0'] then none else digitsOf? 10 digits

/-- The alternative that a tag of the document itself names. -/
def tagName? (tag : Option String) : Option String :=
  match tag.map String.toList with
  | some ('!' :: c :: rest) => some (String.ofList (c :: rest))
  | _ => none

namespace Document

variable {α σ : Type} (d : Document)

def readText : Reading String := fun n ↦
  match d.follow n with
  | .scalar _ _ s => .ok s
  | _ => refuse

def readBool : Reading Bool := fun n ↦
  match d.follow n with
  | .scalar tag style s => if isBare boolTag tag style then orRefuse (boolOf? s) else refuse
  | _ => refuse

def readBounded (limit : Nat) (_ : String) : Reading Nat := fun n ↦
  match d.follow n with
  | .scalar tag style s =>
    if isBare intTag tag style then
      orRefuse ((numberOf? s.toList).filter fun n ↦ n < limit && n < twoTo 64)
    else refuse
  | _ => refuse

def readOption (inner : Reading α) : Reading (Option α) := fun n ↦
  match d.follow n with
  | .scalar tag .plain s =>
    match tag with
    | some t =>
      if t = nullTag then (if isNull s then .ok none else refuse) else (inner n).map some
    | none => if s = "" || isNull s then .ok none else (inner n).map some
  | _ => (inner n).map some

def readList (inner : Reading α) : Reading (List α) := fun n ↦
  match d.follow n with
  | .sequence _ items => items.mapM inner
  | .scalar _ .plain "" => .ok []
  | _ => refuse

/-- One of the named alternatives, as a scalar or as a tag on nothing. -/
def readVariant (known : List (String × α)) : Reading α := fun n ↦
  match d.follow n with
  | .scalar tag style s =>
    match tagName? tag with
    | some name =>
      if style = .plain ∧ (s = "" ∨ isNull s) then orRefuse (known.lookup name) else refuse
    | none => orRefuse (known.lookup s)
  | _ => refuse

/-- Of two members of one name the later one counts. -/
def readMembers (inner : Reading α) : Reading (List (String × α)) := fun n ↦
  match d.follow n with
  | .mapping _ entries => do
    let members ← entries.mapM fun (key, v) ↦ do pure (← d.readText key, ← inner v)
    pure (Ordered.ofList members)
  | .scalar _ .plain "" => .ok []
  | _ => refuse

/-- Puts in the members that a structure knows; none of them may come twice. -/
def storeKnown (members : List (Member Node Unit σ)) (seen : List String) :
    List (Node × Node) → σ → Except Unit (List String × σ)
  | [], s => .ok (seen, s)
  | (key, v) :: rest, s => do
    let name ← d.readText key
    match members.find? (·.name == name) with
    | some member =>
      if name ∈ seen then refuse
      else storeKnown members (name :: seen) rest (← member.store v s)
    | none => storeKnown members seen rest s

/-- Puts in the items of a sequence in the order of the members. -/
def storeInOrder : List (Member Node Unit σ) → List Node → σ → Except Unit σ
  | [], [], s => .ok s
  | [], _ :: _, _ => refuse
  | member :: members, v :: rest, s => do storeInOrder members rest (← member.store v s)
  | member :: members, [], s => if member.optional then storeInOrder members [] s else refuse

def readStructure (_ : String) (members : List (Member Node Unit σ)) (empty : σ) : Reading σ :=
  let read (entries : List (Node × Node)) : Except Unit σ := do
    let (seen, s) ← d.storeKnown members [] entries empty
    if members.all fun m ↦ m.optional || seen.contains m.name then pure s else refuse
  fun n ↦
    match d.follow n with
    | .mapping _ entries => read entries
    | .sequence _ items => storeInOrder members items empty
    | .scalar _ .plain "" => read []
    | _ => refuse

def format : Format Node Unit where
  text := d.readText
  bool := d.readBool
  bounded := d.readBounded
  option := d.readOption
  list := d.readList
  variant := d.readVariant
  members := d.readMembers
  record := d.readStructure

end Document

end RecordStore.Yaml
