import RecordStore.Text.Combining
import RecordStore.Text.Unprintable

namespace RecordStore.Text

/-!
# Quoted text

A text between double quotes in which every quote, backslash and invisible or combining character
stands as an escape, so that the text can be told apart from whatever surrounds it.
-/

/-- Escapes with a letter of their own. -/
def shortEscape? : Char → Option Char
  | '"' => some '"'
  | '\\' => some '\\'
  | '\n' => some 'n'
  | '\r' => some 'r'
  | '\t' => some 't'
  | '\x00' => some '0'
  | _ => none

/-- Whether a character may stand for itself inside a quoted text. -/
def isPlain (c : Char) : Bool :=
  (' ' ≤ c && c ≤ '~') || !(isCombining c || isUnprintable c)

def escape (c : Char) : List Char :=
  match shortEscape? c with
  | some letter => ['\\', letter]
  | none =>
    if isPlain c then [c]
    else ['\\', 'u', '{'] ++ Nat.toDigits 16 c.toNat ++ ['}']

def quotedChars (s : List Char) : List Char :=
  '"' :: (s.flatMap escape ++ ['"'])

def quoted (s : String) : String :=
  String.ofList (quotedChars s.toList)

theorem toList_quoted (s : String) : (quoted s).toList = quotedChars s.toList := by
  simp [quoted]

end RecordStore.Text
