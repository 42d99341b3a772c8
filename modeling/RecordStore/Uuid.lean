import RecordStore.Number.Hex
import RecordStore.Number.Power

namespace RecordStore

/-!
# Universally unique identifiers

Values of 128 bits, written as 32 hexadecimal digits in five groups. Reading accepts the digits
alone, the hyphenated form, and the hyphenated form in braces or after `urn:uuid:`; a text that is
none of these is refused for the first fault found in it.
-/

structure Uuid where
  value : BitVec 128
deriving DecidableEq

namespace Uuid

/-- Cuts a text into groups of the given lengths. -/
def groups : List Nat → List Char → List (List Char)
  | [], _ => []
  | n :: rest, s => s.take n :: groups rest (s.drop n)

def groupLengths : List Nat := [8, 4, 4, 4, 12]

def chars (u : Uuid) : List Char :=
  List.intercalate ['-'] (groups groupLengths (hexDigits 32 u.value.toNat))

def toText (u : Uuid) : String :=
  String.ofList u.chars

instance : ToString Uuid := ⟨toText⟩

def bytes (u : Uuid) : List UInt8 :=
  (List.range 16).map fun i ↦ UInt8.ofNat (u.value.toNat / twoTo (8 * (15 - i)))

def ofBytes? (bytes : List UInt8) : Option Uuid :=
  if bytes.length = 16 then
    some ⟨BitVec.ofNat 128 (bytes.foldl (fun n b ↦ 256 * n + b.toNat) 0)⟩
  else none

def ofSimple? (s : List Char) : Option Uuid :=
  if s.length = 32 then (readHex? s).map fun n ↦ ⟨BitVec.ofNat 128 n⟩ else none

def ofHyphenated? (s : List Char) : Option Uuid :=
  let digits := s.filter (· != '-')
  if List.intercalate ['-'] (groups groupLengths digits) = s then ofSimple? digits else none

/-- The inside of a text in braces. -/
def unbraced? (s : List Char) : Option (List Char) :=
  match s with
  | '{' :: rest => if rest.getLast? = some '}' then some rest.dropLast else none
  | _ => none

def urnHead : List Char := "urn:uuid:".toList

/-- What follows `urn:uuid:`, in any case. -/
def afterUrn? (s : List Char) : Option (List Char) :=
  if (s.take urnHead.length).map Char.toLower = urnHead then some (s.drop urnHead.length) else none

def byteLength (s : List Char) : Nat :=
  s.foldr (·.utf8Size + ·) 0

inductive Fault
  | length (found : Nat)
  | character (found : Char) (offset : Nat)
  | groupCount (found : Nat)
  | groupLength (group expected found : Nat)
deriving DecidableEq

def Fault.message : Fault → String
  | .length found => s!"invalid length: found {found}"
  | .character found offset =>
    "invalid character: found `" ++ String.singleton found ++ s!"` at {offset}"
  | .groupCount found => s!"invalid group count: expected 5, found {found}"
  | .groupLength group expected found =>
    s!"invalid group length in group {group}: expected {expected}, found {found}"

/-- A braced or prefixed text of the full length counts by its inside alone. -/
def core (s : List Char) : List Char :=
  if byteLength s = 38 then (unbraced? s).getD s
  else if byteLength s = 45 then (afterUrn? s).getD s
  else s

/-- The first character that is neither a digit nor a hyphen, with its byte offset. -/
def strayFrom (offset : Nat) : List Char → Option (Char × Nat)
  | [] => none
  | c :: rest =>
    if c = '-' ∨ (hexValue? c).isSome then strayFrom (offset + 1) rest else some (c, offset)

def hyphensFrom (offset : Nat) : List Char → List Nat
  | [] => []
  | c :: rest =>
    if c = '-' then offset :: hyphensFrom (offset + 1) rest else hyphensFrom (offset + 1) rest

/-- For each of the first four groups: its number, where it starts and how long it is. -/
def groupBounds : List (Nat × Nat × Nat) := [(0, 0, 8), (1, 9, 4), (2, 14, 4), (3, 19, 4)]

/-- The fault of a text that no written form fits. -/
def faultOf (s : List Char) : Fault :=
  let text := core s
  let size := byteLength text
  let (inner, offset, bare) :=
    match unbraced? text, afterUrn? text with
    | some inner, _ => (inner, 1, false)
    | none, some inner => (inner, urnHead.length, false)
    | none, none => (text, 0, true)
  if size = 0 ∨ 45 < size then .length size
  else
    match strayFrom offset inner with
    | some (c, place) => .character c place
    | none =>
      let hyphens := hyphensFrom 0 inner
      if hyphens = [] ∧ bare ∧ size ≠ 36 then .length size
      else if hyphens.length ≠ 4 then .groupCount (hyphens.length + 1)
      else
        match (groupBounds.zip hyphens).find? fun ((_, start, width), hyphen) ↦
            hyphen != start + width with
        | some ((group, start, width), hyphen) => .groupLength group width (hyphen - start)
        | none => .groupLength 4 12 (size - 24)

def ofText? (s : List Char) : Option Uuid :=
  if byteLength s = 32 then ofSimple? s
  else if byteLength s = 36 ∨ byteLength s = 38 ∨ byteLength s = 45 then ofHyphenated? (core s)
  else none

def read (s : String) : Except Fault Uuid :=
  match ofText? s.toList with
  | some u => .ok u
  | none => .error (faultOf s.toList)

end Uuid

end RecordStore
