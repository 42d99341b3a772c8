import RecordStore.Json.Basic
import RecordStore.Number.Hex
import RecordStore.Number.Power

namespace RecordStore.Json

/-!
# Reading JSON text

The text is cut into tokens one character at a time, and the tokens build the value on a stack of
open containers. A number without a fraction or exponent that fits in 64 bits is an integer; any
other number is a double.
-/

inductive Token
  | mark (c : Char)
  | leaf (value : Json)

inductive Lexing
  | between
  | word (letters : List Char)
  | inText (done : List Char)
  | afterBackslash (done : List Char)
  | inUnicode (done : List Char) (high : Option Nat) (digits : List Char)
  | awaitingLow (done : List Char) (high : Nat)
  | awaitingLowLetter (done : List Char) (high : Nat)

def natOf? (digits : List Char) : Option Nat :=
  if digits ≠ [] ∧ digits.all Char.isDigit then some (Nat.ofDigitChars 10 digits 0) else none

/-- The whole, fractional and exponent parts of a number without its sign. -/
def numberParts (s : List Char) : List Char × Option (List Char) × Option (List Char) :=
  let (mantissa, exponent) := s.span fun c ↦ c != 'e' && c != 'E'
  let (whole, fraction) := mantissa.span (· != '.')
  let after (t : List Char) := if t = [] then none else some (t.drop 1)
  (whole, after fraction, after exponent)

def exponentOf? : List Char → Option Int
  | '-' :: digits => (natOf? digits).map fun n ↦ -(n : Int)
  | '+' :: digits => (natOf? digits).map fun n ↦ (n : Int)
  | digits => (natOf? digits).map fun n ↦ (n : Int)

def numberOf? (s : List Char) : Option Json := do
  let negative := s.head? == some '-'
  let (whole, fraction, exponent) := numberParts (if negative then s.drop 1 else s)
  let n ← natOf? whole
  if 1 < whole.length ∧ whole.head? = some '0' then none
  else
    match fraction, exponent with
    | none, none =>
      let value : Int := if negative then -n else n
      if (negative ∧ n = 0) ∨ value < -(twoTo 63 : Int) ∨ twoTo 64 ≤ value then
        some (float (Double.ofDecimal negative n 0))
      else some (int value)
    | _, _ =>
      let places := fraction.getD []
      if fraction.isSome then discard (natOf? places)
      let power ← match exponent with
        | some e => exponentOf? e
        | none => some 0
      some (float (Double.ofDecimal negative (Nat.ofDigitChars 10 (whole ++ places) 0)
        (power - places.length)))

def wordOf? (letters : List Char) : Option Json :=
  match String.ofList letters with
  | "null" => some null
  | "true" => some (bool true)
  | "false" => some (bool false)
  | _ => numberOf? letters

def isMark (c : Char) : Bool :=
  c ∈ ['[', ']', '{', '}', ',', ':']

def isBlank (c : Char) : Bool :=
  c ∈ [' ', '\t', '\n', '\r']

def startToken (c : Char) : List Token × Lexing :=
  if isBlank c then ([], .between)
  else if isMark c then ([.mark c], .between)
  else if c = '"' then ([], .inText [])
  else ([], .word [c])

/-- The state after a four-digit escape that follows the high surrogate `high`, if there is one. -/
def afterUnit? (done : List Char) (high : Option Nat) (unit : Nat) : Option Lexing :=
  match high with
  | some h =>
    if 0xDC00 ≤ unit ∧ unit < 0xE000 then
      some (.inText (Char.ofNat (0x10000 + (h - 0xD800) * 0x400 + (unit - 0xDC00)) :: done))
    else none
  | none =>
    if 0xD800 ≤ unit ∧ unit < 0xDC00 then some (.awaitingLow done unit)
    else if 0xDC00 ≤ unit ∧ unit < 0xE000 then none
    else some (.inText (Char.ofNat unit :: done))

def letterEscape? : Char → Option Char
  | '"' => some '"'
  | '\\' => some '\\'
  | '/' => some '/'
  | 'b' => some '\x08'
  | 'f' => some '\x0c'
  | 'n' => some '\n'
  | 'r' => some '\r'
  | 't' => some '\t'
  | _ => none

/-- What one more character yields: finished tokens and the next state. -/
def advance? (state : Lexing) (c : Char) : Option (List Token × Lexing) :=
  match state with
  | .between => some (startToken c)
  | .word letters =>
    if isBlank c || isMark c || c == '"' then do
      let value ← wordOf? letters.reverse
      let (tokens, next) := startToken c
      pure (.leaf value :: tokens, next)
    else some ([], .word (c :: letters))
  | .inText done =>
    if c = '"' then some ([.leaf (text (String.ofList done.reverse))], .between)
    else if c = '\\' then some ([], .afterBackslash done)
    else if c < ' ' then none
    else some ([], .inText (c :: done))
  | .afterBackslash done =>
    if c = 'u' then some ([], .inUnicode done none [])
    else (letterEscape? c).map fun e ↦ ([], .inText (e :: done))
  | .inUnicode done high digits =>
    let all := digits ++ [c]
    if all.length < 4 then some ([], .inUnicode done high all)
    else do
      let next ← afterUnit? done high (← readHex? all)
      pure ([], next)
  | .awaitingLow done high => if c = '\\' then some ([], .awaitingLowLetter done high) else none
  | .awaitingLowLetter done high =>
    if c = 'u' then some ([], .inUnicode done (some high) []) else none

def tokens? : Lexing → List Char → Option (List Token)
  | .between, [] => some []
  | .word letters, [] => (wordOf? letters.reverse).map fun value ↦ [.leaf value]
  | _, [] => none
  | state, c :: rest =>
    match advance? state c with
    | some (found, next) => (tokens? next rest).map (found ++ ·)
    | none => none

inductive Frame
  | array (done : List Json)
  | object (done : List (String × Json)) (name : Option String)

inductive Expecting
  | value
  | valueOrClose
  | nameOrClose
  | name
  | colon
  | separator
  | nothing
deriving DecidableEq

structure Building where
  stack : List Frame
  expecting : Expecting
  result : Option Json

def Building.place (b : Building) (v : Json) : Option Building :=
  match b.stack with
  | [] => some ⟨[], .nothing, some v⟩
  | .array done :: rest => some ⟨.array (v :: done) :: rest, .separator, none⟩
  | .object done (some name) :: rest =>
    some ⟨.object ((name, v) :: done) none :: rest, .separator, none⟩
  | .object _ none :: _ => none

def Building.step? (b : Building) : Token → Option Building
  | .leaf v =>
    match b.expecting, v, b.stack with
    | .value, _, _ => b.place v
    | .valueOrClose, _, _ => b.place v
    | .name, text s, .object done _ :: rest => some ⟨.object done (some s) :: rest, .colon, none⟩
    | .nameOrClose, text s, .object done _ :: rest =>
      some ⟨.object done (some s) :: rest, .colon, none⟩
    | _, _, _ => none
  | .mark c =>
    match c, b.expecting, b.stack with
    | '[', .value, stack => some ⟨.array [] :: stack, .valueOrClose, none⟩
    | '[', .valueOrClose, stack => some ⟨.array [] :: stack, .valueOrClose, none⟩
    | '{', .value, stack => some ⟨.object [] none :: stack, .nameOrClose, none⟩
    | '{', .valueOrClose, stack => some ⟨.object [] none :: stack, .nameOrClose, none⟩
    | ':', .colon, stack => some ⟨stack, .value, none⟩
    | ',', .separator, .array done :: rest => some ⟨.array done :: rest, .value, none⟩
    | ',', .separator, .object done name :: rest => some ⟨.object done name :: rest, .name, none⟩
    | ']', .valueOrClose, .array done :: rest =>
      Building.place ⟨rest, .value, none⟩ (array done.reverse)
    | ']', .separator, .array done :: rest =>
      Building.place ⟨rest, .value, none⟩ (array done.reverse)
    | '}', .nameOrClose, .object done _ :: rest =>
      Building.place ⟨rest, .value, none⟩ (ofMembers done.reverse)
    | '}', .separator, .object done _ :: rest =>
      Building.place ⟨rest, .value, none⟩ (ofMembers done.reverse)
    | _, _, _ => none

def read? (s : String) : Option Json := do
  let tokens ← tokens? .between s.toList
  let built ← tokens.foldlM Building.step? ⟨[], .value, none⟩
  if built.expecting = .nothing then built.result else none

end RecordStore.Json
