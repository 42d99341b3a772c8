import RecordStore.Calendar
import RecordStore.Number.Power
import RecordStore.Text.Blank

namespace RecordStore

/-!
# Reading dates and times of day

A written form is a list of items. Reading follows the items from left to right; a number may have
blanks in front of it and fewer digits than it is usually written with. Dates and times are only
checked against the calendar when the whole text has been read.
-/

namespace Calendar

/-- Why a text is not of a written form. -/
inductive Fault
  | tooShort
  | invalid
  | tooLong
  | outOfRange
deriving DecidableEq

def Fault.message : Fault → String
  | tooShort => "premature end of input"
  | invalid => "input contains invalid characters"
  | tooLong => "trailing input"
  | outOfRange => "input is out of range"

inductive Part
  | year
  | month
  | day
  | hour
  | minute
  | second
deriving DecidableEq

def Part.width : Part → Nat
  | year => 4
  | _ => 2

def Part.bounds : Part → Int × Int
  | year => (-2147483648, 2147483647)
  | month => (1, 12)
  | day => (1, 31)
  | hour => (0, 23)
  | minute => (0, 59)
  | second => (0, 60)

inductive Item
  /-- A number of at most its full width. A year with a sign may be longer. -/
  | loose (p : Part)
  /-- A number of exactly its full width. -/
  | full (p : Part)
  /-- Digits after a point, if there is one; those after the ninth do not count. -/
  | fraction
  | blanks
  | among (cs : List Char)
  /-- A distance from universal time, which is read and passed over. -/
  | offset
  /-- A distance from universal time with a colon, or a letter `Z` in either case. -/
  | zone
deriving DecidableEq

structure Parts where
  year : Int
  month : Nat
  day : Nat
  hour : Nat
  minute : Nat
  second : Nat
  nanosecond : Nat

namespace Parts

def zero : Parts :=
  ⟨0, 0, 0, 0, 0, 0, 0⟩

def set (ps : Parts) (p : Part) (n : Int) : Parts :=
  match p with
  | .year => { ps with year := n }
  | .month => { ps with month := n.toNat }
  | .day => { ps with day := n.toNat }
  | .hour => { ps with hour := n.toNat }
  | .minute => { ps with minute := n.toNat }
  | .second => { ps with second := n.toNat }

def date? (ps : Parts) : Option Date :=
  Date.of? ps.year ps.month ps.day

/-- Second 60 is a leap second. -/
def time? (ps : Parts) : Option Time :=
  if ps.second = 60 then Time.of? ps.hour ps.minute 59 (1000000000 + ps.nanosecond)
  else Time.of? ps.hour ps.minute ps.second ps.nanosecond

def dateTime? (ps : Parts) : Option DateTime := do
  pure ⟨← ps.date?, ← ps.time?⟩

end Parts

def readNumber (least : Nat) (most : Nat) (s : List Char) : Except Fault (Nat × List Char) :=
  let digits := (s.take most).takeWhile Char.isDigit
  if s.length < least then .error .tooShort
  else if digits.length < least then .error .invalid
  else .ok (Nat.ofDigitChars 10 digits 0, s.drop digits.length)

/-- Reads the number of a part; only a year may have a sign. -/
def readLoose (p : Part) (s : List Char) : Except Fault (Int × List Char) :=
  match p, Text.skipBlanks s with
  | .year, '-' :: rest => do
    let (n, rest) ← readNumber 1 rest.length rest
    pure (-(n : Int), rest)
  | .year, '+' :: rest => do
    let (n, rest) ← readNumber 1 rest.length rest
    pure ((n : Int), rest)
  | _, rest => do
    let (n, rest) ← readNumber 1 p.width rest
    pure ((n : Int), rest)

def readFull (p : Part) (s : List Char) : Except Fault (Int × List Char) := do
  let (n, rest) ← readNumber p.width p.width s
  pure ((n : Int), rest)

/-- Reads the digits after a point as billionths. -/
def readFraction (s : List Char) : Except Fault (Nat × List Char) := do
  let (_, _) ← readNumber 1 9 s
  let digits := s.takeWhile Char.isDigit
  let kept := digits.take 9
  pure (Nat.ofDigitChars 10 kept 0 * tenTo (9 - kept.length), s.drop digits.length)

/-- Reads a signed distance of hours and minutes; `between` says what may stand between the two. -/
def readOffset (between : List Char → Except Fault (List Char)) (s : List Char) :
    Except Fault (List Char) :=
  match s with
  | [] => .error .tooShort
  | sign :: rest =>
    if sign ∉ ['+', '-', Char.ofNat 0x2212] then .error .invalid
    else do
      let (_, rest) ← readNumber 2 2 rest
      let rest ← between rest
      let (minutes, rest) ← readNumber 2 2 rest
      if 59 < minutes then throw .outOfRange
      pure rest

/-- Colons and blanks in any number. -/
def skipColons (s : List Char) : Except Fault (List Char) :=
  .ok (s.dropWhile fun c ↦ c == ':' || Text.isBlank c)

def takeColon : List Char → Except Fault (List Char)
  | ':' :: rest => .ok rest
  | [] => .error .tooShort
  | _ => .error .invalid

def store (ps : Parts) (p : Part) (n : Int) : Except Fault Parts :=
  if p.bounds.1 ≤ n ∧ n ≤ p.bounds.2 then .ok (ps.set p n) else .error .outOfRange

def readItem (item : Item) (ps : Parts) (s : List Char) : Except Fault (Parts × List Char) :=
  match item with
  | .loose p => do
    let (n, rest) ← readLoose p s
    pure (← store ps p n, rest)
  | .full p => do
    let (n, rest) ← readFull p s
    pure (← store ps p n, rest)
  | .fraction =>
    match s with
    | '.' :: digits => do
      let (n, rest) ← readFraction digits
      pure ({ ps with nanosecond := n }, rest)
    | _ => .ok (ps, s)
  | .blanks => .ok (ps, Text.skipBlanks s)
  | .among cs =>
    match s with
    | c :: rest => if c ∈ cs then .ok (ps, rest) else .error .invalid
    | [] => .error .tooShort
  | .offset => (readOffset skipColons (Text.skipBlanks s)).map fun rest ↦ (ps, rest)
  | .zone =>
    match s with
    | 'Z' :: rest => .ok (ps, rest)
    | 'z' :: rest => .ok (ps, rest)
    | _ => (readOffset takeColon s).map fun rest ↦ (ps, rest)

def readItems : List Item → Parts → List Char → Except Fault Parts
  | [], ps, [] => .ok ps
  | [], _, _ :: _ => .error .tooLong
  | item :: items, ps, s => do
    let (ps, rest) ← readItem item ps s
    readItems items ps rest

def mark (c : Char) : Item :=
  .among [c]

def dateItems : List Item :=
  [.loose .year, mark '-', .loose .month, mark '-', .loose .day]

def minuteItems : List Item :=
  [.loose .hour, mark ':', .loose .minute]

def secondItems : List Item :=
  minuteItems ++ [mark ':', .loose .second]

/-- A date and a time of day in full, with their distance from universal time. -/
def fullItems : List Item :=
  [.full .year, mark '-', .full .month, mark '-', .full .day, .among ['t', 'T', ' '],
    .full .hour, mark ':', .full .minute, mark ':', .full .second, .fraction, .zone]

def clockForms : List (List Item) :=
  [secondItems ++ [.fraction], minuteItems, minuteItems ++ [mark 'Z'], minuteItems ++ [.offset],
    secondItems ++ [.fraction, mark 'Z'], secondItems ++ [.fraction, .offset]]

def dateTimeForms : List (List Item) :=
  fullItems :: clockForms.map (fun clock ↦ dateItems ++ .blanks :: clock)
    ++ clockForms.map fun clock ↦ dateItems ++ mark 'T' :: clock

def timeForms : List (List Item) :=
  (secondItems ++ [mark '.', mark 'f']) :: clockForms

/-- What the first form gives that fits a text. -/
def firstFit? {α : Type} (make : Parts → Option α) (forms : List (List Item)) (s : List Char) :
    Option α :=
  forms.findSome? fun form ↦
    match readItems form .zero s with
    | .ok ps => make ps
    | .error _ => none

end Calendar

open Calendar

def Date.read (s : String) : Except Fault Date := do
  let ps ← readItems dateItems .zero s.toList
  match ps.date? with
  | some d => pure d
  | none => throw .outOfRange

def Time.read? (s : String) : Option Time :=
  firstFit? Parts.time? timeForms s.toList

def DateTime.read? (s : String) : Option DateTime :=
  firstFit? Parts.dateTime? dateTimeForms s.toList

end RecordStore
