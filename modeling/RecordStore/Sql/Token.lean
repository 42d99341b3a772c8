import RecordStore.Sql.Dialect

namespace RecordStore.Sql

/-!
# Tokens of SQL text

A statement is a list of lexemes: tokens, and the single blanks between some of them. `spell` writes
them in a dialect and `scan` cuts a text into its tokens by the rules of that dialect. A delimited
name ends at the first closing delimiter that is not followed by another one.
-/

inductive Token
  | word (letters : String)
  | name (identifier : String)
  | place (index : Option Nat)
  | mark (c : Char)
deriving DecidableEq

inductive Lexeme
  | token (t : Token)
  | gap
deriving DecidableEq

/-- The place of the parameter `index`, as far as the dialect shows it. -/
def Token.placeIn (d : Dialect) (index : Nat) : Token :=
  place (if d.numbersPlaces then some index else none)

def Token.spell (d : Dialect) : Token → List Char
  | word letters => letters.toList
  | name identifier => d.quoting.wrap identifier.toList
  | place index => d.placeHead ++ (index.map (Nat.toDigits 10)).getD []
  | mark c => [c]

def Lexeme.spell (d : Dialect) : Lexeme → List Char
  | token t => t.spell d
  | gap => [' ']

def spell (d : Dialect) (lexemes : List Lexeme) : List Char :=
  lexemes.flatMap (Lexeme.spell d)

def Lexeme.token? : Lexeme → Option Token
  | token t => some t
  | gap => none

/-- The token a scanner is in the middle of, with its characters in reverse. -/
inductive Scanning
  | between
  | word (done : List Char)
  | name (done : List Char)
  | nameClosed (done : List Char)
  | place (done : List Char)
deriving DecidableEq

def isLetter (c : Char) : Bool :=
  'A' ≤ c && c ≤ 'Z'

def isMark (c : Char) : Bool :=
  c ∈ ['(', ')', ',', '.', '=', '*']

/-- The place that a text of this dialect writes, head included. -/
def placeOf? (d : Dialect) (text : List Char) : Option Token :=
  match d.placeHead.isPrefixOf? text with
  | none => none
  | some digits =>
    if d.numbersPlaces then
      if digits ≠ [] ∧ digits.all Char.isDigit then
        some (.place (some (Nat.ofDigitChars 10 digits 0)))
      else none
    else if digits = [] then some (.place none)
    else none

def start? (d : Dialect) (c : Char) : Option (List Token × Scanning) :=
  if c = ' ' then some ([], .between)
  else if c = d.quoting.opening then some ([], .name [])
  else if d.placeHead.head? = some c then some ([], .place [c])
  else if isMark c then some ([.mark c], .between)
  else if isLetter c then some ([], .word [c])
  else none

def finish? (d : Dialect) : Scanning → Option (List Token)
  | .between => some []
  | .word done => some [.word (String.ofList done.reverse)]
  | .name _ => none
  | .nameClosed done => some [.name (String.ofList done.reverse)]
  | .place done => (placeOf? d done.reverse).map ([·])

def extend? (d : Dialect) (c : Char) : Scanning → Option Scanning
  | .between => none
  | .word done => if isLetter c then some (.word (c :: done)) else none
  | .name done =>
    if c = d.quoting.closing then some (.nameClosed done) else some (.name (c :: done))
  | .nameClosed done => if c = d.quoting.closing then some (.name (c :: done)) else none
  | .place done => if isLetter c || c.isDigit then some (.place (c :: done)) else none

def scanFrom (d : Dialect) : Scanning → List Char → Option (List Token)
  | state, [] => finish? d state
  | state, c :: rest =>
    match extend? d c state with
    | some next => scanFrom d next rest
    | none => do
      let done ← finish? d state
      let (found, next) ← start? d c
      let later ← scanFrom d next rest
      pure (done ++ found ++ later)

def scan (d : Dialect) (text : List Char) : Option (List Token) :=
  scanFrom d .between text

end RecordStore.Sql
