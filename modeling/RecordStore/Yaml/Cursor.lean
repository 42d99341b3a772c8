namespace RecordStore.Yaml

/-!
# Places in a text

A `Cursor` is the rest of a text together with where it begins: how many characters come before it,
on which line it starts and in which column. A carriage return followed by a line feed is one line
break.
-/

def nextLine : Char := Char.ofNat 0x85

def lineSeparator : Char := Char.ofNat 0x2028

def paragraphSeparator : Char := Char.ofNat 0x2029

def byteOrderMark : Char := Char.ofNat 0xFEFF

def isBlank (c : Char) : Bool :=
  c == ' ' || c == '\t'

def isBreak (c : Char) : Bool :=
  c == '\n' || c == '\r' || c == nextLine || c == lineSeparator || c == paragraphSeparator

def isSpace (c : Char) : Bool :=
  isBlank c || isBreak c

def isAllowed (c : Char) : Bool :=
  let n := c.toNat
  c == '\t' || c == '\n' || c == '\r' || (0x20 ≤ n && n ≤ 0x7E) || n == 0x85
    || (0xA0 ≤ n && n ≤ 0xD7FF) || (0xE000 ≤ n && n ≤ 0xFFFD) || 0x10000 ≤ n

def isWord (c : Char) : Bool :=
  c.isAlphanum || c == '_' || c == '-'

def atSpace : List Char → Bool
  | [] => true
  | c :: _ => isSpace c

def atBreak : List Char → Bool
  | [] => true
  | c :: _ => isBreak c

structure Cursor where
  rest : List Char
  index : Nat
  line : Nat
  column : Nat

namespace Cursor

def start (text : List Char) : Cursor :=
  ⟨text, 0, 0, 0⟩

def peek? (c : Cursor) : Option Char :=
  c.rest.head?

def advance (c : Cursor) (n : Nat) : Cursor :=
  ⟨c.rest.drop n, c.index + n, c.line, c.column + n⟩

def skip (c : Cursor) : Cursor :=
  c.advance 1

def skipWhile (c : Cursor) (p : Char → Bool) : Cursor :=
  c.advance (c.rest.takeWhile p).length

/-- How many characters the break at the start of a text takes. -/
def breakLength : List Char → Nat
  | '\r' :: '\n' :: _ => 2
  | _ => 1

def skipBreak (c : Cursor) : Cursor :=
  let n := breakLength c.rest
  ⟨c.rest.drop n, c.index + n, c.line + 1, 0⟩

/-- What the break at the cursor counts as. -/
def breakText (c : Cursor) : List Char :=
  match c.rest with
  | [] => []
  | ch :: _ =>
    if ch = lineSeparator ∨ ch = paragraphSeparator then [ch]
    else if isBreak ch then ['\n']
    else []

/-- Whether a line begins here that consists of `---` or `...` or goes on after a space. -/
def atDocumentMark (c : Cursor) : Bool :=
  c.column == 0
    && ("---".toList.isPrefixOf c.rest || "...".toList.isPrefixOf c.rest) && atSpace (c.rest.drop 3)

theorem length_skip_lt {c : Cursor} {ch : Char} {rest : List Char} (h : c.rest = ch :: rest) :
    c.skip.rest.length < c.rest.length := by
  simp [skip, advance, h]

theorem length_skipBreak_lt {c : Cursor} {ch : Char} {rest : List Char} (h : c.rest = ch :: rest) :
    c.skipBreak.rest.length < c.rest.length := by
  have : 0 < breakLength c.rest := by
    unfold breakLength
    split <;> omega
  simp only [skipBreak, List.length_drop, h, List.length_cons]
  rw [h] at this
  omega

end Cursor

end RecordStore.Yaml
