import RecordStore.Text.Range

namespace RecordStore.Text

/-!
# Blank characters
-/

/-- The characters of the property White_Space. -/
def blankRanges : List CodeRange :=
  [(0x9, 0xD), (0x20, 0x20), (0x85, 0x85), (0xA0, 0xA0), (0x1680, 0x1680), (0x2000, 0x200A),
    (0x2028, 0x2029), (0x202F, 0x202F), (0x205F, 0x205F), (0x3000, 0x3000)]

def isBlank (c : Char) : Bool :=
  within blankRanges c

def skipBlanks (s : List Char) : List Char :=
  s.dropWhile isBlank

/-- The blanks of ASCII, the vertical tab included. -/
def isAsciiBlank (c : Char) : Bool :=
  c == ' ' || ('\t' ≤ c && c ≤ '\r')

end RecordStore.Text
