import RecordStore.Number.Hex
import RecordStore.Yaml.Cursor
import RecordStore.Yaml.Token

namespace RecordStore.Yaml

/-!
# Anchors, tags and directives

The tokens that begin with a mark of their own. Readers return the token and the place after it.
-/

/-- What may follow the name of an anchor or alias besides a space. -/
def endsName (c : Char) : Bool :=
  c ∈ ['?', ':', ',', ']', '}', '%', '@', Char.ofNat 96]

def readName (c : Cursor) : Option (String × Cursor) :=
  let name := c.skip.rest.takeWhile isWord
  let next := c.skip.advance name.length
  if name ≠ [] ∧ (atSpace next.rest ∨ (next.peek?.map endsName).getD false) then
    some (String.ofList name, next)
  else none

/-- The characters of the address in a tag; the last three only between angle brackets. -/
def isAddress (isVerbatim : Bool) (c : Char) : Bool :=
  isWord c || c ∈ [';', '/', '?', ':', '@', '&', '=', '+', '$', '.', '!', '~', '*', '\'', '(', ')']
    || (isVerbatim && c ∈ [',', '[', ']'])

/-- The bytes of an address, in which `%` and two digits stand for one, and what follows it. -/
def addressBytes (isVerbatim : Bool) : List Char → Option (List UInt8 × List Char)
  | '%' :: a :: b :: rest => do
    let high ← hexValue? a
    let low ← hexValue? b
    let (bytes, rest) ← addressBytes isVerbatim rest
    pure (UInt8.ofNat (16 * high + low) :: bytes, rest)
  | '%' :: _ => none
  | [] => some ([], [])
  | c :: rest =>
    if isAddress isVerbatim c then do
      let (bytes, rest) ← addressBytes isVerbatim rest
      pure ((String.singleton c).toUTF8.toList ++ bytes, rest)
    else some ([], c :: rest)

def readAddress (isVerbatim : Bool) (c : Cursor) : Option (String × Cursor) := do
  let (bytes, rest) ← addressBytes isVerbatim c.rest
  let text ← String.fromUTF8? ⟨bytes.toArray⟩
  pure (text, c.advance (c.rest.length - rest.length))

/-- The handle at the cursor: a mark, letters, and the mark again if it follows them. -/
def readHandle (c : Cursor) : Option (List Char × Cursor) :=
  match c.rest with
  | '!' :: rest =>
    let letters := rest.takeWhile isWord
    let closing := if (rest.drop letters.length).head? = some '!' then ['!'] else []
    let handle := '!' :: (letters ++ closing)
    some (handle, c.advance handle.length)
  | _ => none

def isClosedHandle (handle : List Char) : Bool :=
  1 < handle.length && handle.getLast? == some '!'

/-- The tag at the cursor without a look at what follows it. -/
def readBareTag (c : Cursor) : Option (Token × Cursor) :=
  match c.rest with
  | '!' :: '<' :: _ => do
    let (address, next) ← readAddress true (c.advance 2)
    if address ≠ "" ∧ next.peek? = some '>' then some (.tag "" address, next.skip) else none
  | _ => do
    let (handle, next) ← readHandle c
    let (tail, next) ← readAddress false next
    if isClosedHandle handle then
      if tail = "" then none else some (.tag (String.ofList handle) tail, next)
    else
      let tail := String.ofList (handle.drop 1) ++ tail
      some (if tail = "" then .tag "" "!" else .tag "!" tail, next)

/-- The tag at the cursor, which ends at a space or, inside brackets, at a comma. -/
def readTag (inFlow : Bool) (c : Cursor) : Option (Token × Cursor) := do
  let (tag, next) ← readBareTag c
  if atSpace next.rest || (inFlow && next.peek? == some ',') then some (tag, next) else none

/-- A number of at most nine digits. -/
def readVersionNumber (c : Cursor) : Option (Nat × Cursor) :=
  let digits := c.rest.takeWhile Char.isDigit
  if digits = [] ∨ 9 < digits.length then none
  else some (Nat.ofDigitChars 10 digits 0, c.advance digits.length)

def readVersion (c : Cursor) : Option (Token × Cursor) := do
  let (major, next) ← readVersionNumber (c.skipWhile isBlank)
  if next.peek? ≠ some '.' then none
  else
    let (minor, next) ← readVersionNumber next.skip
    some (.versionDirective major minor, next)

def readTagDirective (c : Cursor) : Option (Token × Cursor) := do
  let (handle, next) ← readHandle (c.skipWhile isBlank)
  if (!isClosedHandle handle && handle ≠ ['!']) || !(next.peek?.map isBlank).getD false then none
  else
    let (head, next) ← readAddress true (next.skipWhile isBlank)
    if head ≠ "" ∧ atSpace next.rest then
      some (.tagDirective (String.ofList handle) head, next)
    else none

/-- The directive at the cursor with the rest of its line, which may hold a comment. -/
def readDirective (c : Cursor) : Option (Token × Cursor) := do
  let name := c.skip.rest.takeWhile isWord
  let next := c.skip.advance name.length
  let (directive, next) ←
    if !atSpace next.rest then none
    else if name = "YAML".toList then readVersion next
    else if name = "TAG".toList then readTagDirective next
    else none
  let next := next.skipWhile isBlank
  let next := if next.peek? = some '#' then next.skipWhile (!isBreak ·) else next
  if atBreak next.rest then some (directive, if next.rest.isEmpty then next else next.skipBreak)
  else none

end RecordStore.Yaml
