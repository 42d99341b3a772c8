import RecordStore.Yaml.Property
import RecordStore.Yaml.Scalar

namespace RecordStore.Yaml

/-!
# From text to tokens

The lexer keeps the columns at which the open blocks stand. A key of a mapping is only known by the
`:` that follows it on the same line; where one may have begun, its place is remembered so that its
tokens can be put in there afterwards.
-/

/-- A place where a key may have begun. -/
structure KeyPlace where
  tokenCount : Nat
  index : Nat
  line : Nat
  column : Nat
  /-- Whether nothing but a key can stand there. -/
  isRequired : Bool

structure Lexer where
  cursor : Cursor
  tokens : List Token
  /-- The column of the innermost block, and those of the blocks around it. -/
  indent : Int
  outer : List Int
  /-- The place of a possible key inside the innermost brackets, and those outside them. -/
  key : Option KeyPlace
  outerKeys : List (Option KeyPlace)
  keyAllowed : Bool

namespace Lexer

def start (text : List Char) : Lexer :=
  ⟨.start text, [], -1, [], none, [], true⟩

def inFlow (l : Lexer) : Bool :=
  !l.outerKeys.isEmpty

def put (l : Lexer) (t : Token) (next : Cursor) : Lexer :=
  { l with tokens := t :: l.tokens, cursor := next }

/-- Puts a token in after the first `count` tokens. -/
def insertAt (l : Lexer) (count : Nat) (t : Token) : Lexer :=
  { l with tokens := l.tokens.insertIdx (l.tokens.length - count) t }

/-- Past a byte order mark at the start of a line. -/
def skipMark (c : Cursor) : Cursor :=
  if c.column = 0 ∧ c.peek? = some byteOrderMark then c.skip else c

/-- Past blanks and a comment on the same line. A tab counts as a blank only where no key may
begin. -/
def skipBlanks (inFlow keyAllowed : Bool) (c : Cursor) : Cursor :=
  let c := c.skipWhile fun ch ↦ ch == ' ' || ((inFlow || !keyAllowed) && ch == '\t')
  if c.peek? = some '#' then c.skipWhile (!isBreak ·) else c

/-- Past blanks, comments and breaks. Outside brackets a key may begin after a break. -/
def skipSpace (inFlow keyAllowed : Bool) (c : Cursor) : Cursor × Bool :=
  let next := skipBlanks inFlow keyAllowed (skipMark c)
  if (next.peek?.map isBreak).getD false then
    if next.skipBreak.rest.length < c.rest.length then
      skipSpace inFlow (keyAllowed || !inFlow) next.skipBreak
    else (next, keyAllowed)
  else (next, keyAllowed)
termination_by c.rest.length

/-- Closes the blocks that stand to the right of a column. -/
def closeBlocks (column : Int) (tokens : List Token) (indent : Int) :
    List Int → List Token × Int × List Int
  | [] => (tokens, indent, [])
  | around :: outer =>
    if column < indent then closeBlocks column (.blockEnd :: tokens) around outer
    else (tokens, indent, around :: outer)

def unroll (l : Lexer) (column : Int) : Lexer :=
  if l.inFlow then l
  else
    let (tokens, indent, outer) := closeBlocks column l.tokens l.indent l.outer
    { l with tokens, indent, outer }

/-- Opens a block at a column, its first token standing after the first `count` tokens. -/
def roll (l : Lexer) (column : Nat) (count : Nat) (t : Token) : Lexer :=
  if !l.inFlow && l.indent < column then
    { l.insertAt count t with indent := column, outer := l.indent :: l.outer }
  else l

def dropKey (l : Lexer) : Option Lexer :=
  if (l.key.map KeyPlace.isRequired).getD false then none else some { l with key := none }

def markKey (l : Lexer) : Option Lexer :=
  if l.keyAllowed then do
    let l ← l.dropKey
    let place : KeyPlace :=
      { tokenCount := l.tokens.length
        index := l.cursor.index
        line := l.cursor.line
        column := l.cursor.column
        isRequired := !l.inFlow && l.indent == l.cursor.column }
    pure { l with key := some place }
  else some l

def lexStreamEnd (l : Lexer) : Option Lexer :=
  { l.unroll (-1) with keyAllowed := false }.dropKey

def lexDirective (l : Lexer) : Option Lexer := do
  let l ← (l.unroll (-1)).dropKey
  let (t, next) ← readDirective l.cursor
  pure { l.put t next with keyAllowed := false }

def lexDocumentMark (l : Lexer) : Option Lexer := do
  let l ← (l.unroll (-1)).dropKey
  let t := if l.cursor.peek? = some '-' then Token.documentStart else .documentEnd
  pure { l.put t (l.cursor.advance 3) with keyAllowed := false }

def lexFlowStart (l : Lexer) (t : Token) : Option Lexer := do
  let l ← l.markKey
  pure { l.put t l.cursor.skip with key := none, outerKeys := l.key :: l.outerKeys, keyAllowed := true }

def lexFlowEnd (l : Lexer) (t : Token) : Option Lexer := do
  let l ← l.dropKey
  let l := { l.put t l.cursor.skip with keyAllowed := false }
  match l.outerKeys with
  | key :: outerKeys => pure { l with key, outerKeys }
  | [] => pure l

def lexFlowEntry (l : Lexer) : Option Lexer := do
  let l ← l.dropKey
  pure { l.put .flowEntry l.cursor.skip with keyAllowed := true }

def lexBlockEntry (l : Lexer) : Option Lexer := do
  if !l.inFlow && !l.keyAllowed then none
  let l ← (l.roll l.cursor.column l.tokens.length .blockSequenceStart).dropKey
  pure { l.put .blockEntry l.cursor.skip with keyAllowed := true }

def lexKey (l : Lexer) : Option Lexer := do
  if !l.inFlow && !l.keyAllowed then none
  let l ← (l.roll l.cursor.column l.tokens.length .blockMappingStart).dropKey
  pure { l.put .key l.cursor.skip with keyAllowed := !l.inFlow }

/-- A key stands on one line and is at most 1024 characters long. -/
def KeyPlace.reaches (k : KeyPlace) (c : Cursor) : Bool :=
  k.line == c.line && c.index ≤ k.index + 1024

def lexValue (l : Lexer) : Option Lexer :=
  match l.key with
  | some k =>
    if KeyPlace.reaches k l.cursor then
      let l := (l.insertAt k.tokenCount .key).roll k.column k.tokenCount .blockMappingStart
      some { l.put .value l.cursor.skip with key := none, keyAllowed := false }
    else if k.isRequired then none
    else withoutKey { l with key := none }
  | none => withoutKey l
where
  withoutKey (l : Lexer) : Option Lexer :=
    if !l.inFlow && !l.keyAllowed then none
    else
      let l := l.roll l.cursor.column l.tokens.length .blockMappingStart
      some { l.put .value l.cursor.skip with keyAllowed := !l.inFlow }

def lexNamed (l : Lexer) (make : String → Token) : Option Lexer := do
  let l ← l.markKey
  let (name, next) ← readName l.cursor
  pure { l.put (make name) next with keyAllowed := false }

def lexTag (l : Lexer) : Option Lexer := do
  let l ← l.markKey
  let (t, next) ← readTag l.inFlow l.cursor
  pure { l.put t next with keyAllowed := false }

def lexBlockScalar (l : Lexer) (style : ScalarStyle) : Option Lexer := do
  let l ← l.dropKey
  let (text, next) ← readBlock (style == .folded) l.indent l.cursor
  pure { l.put (.scalar style (String.ofList text)) next with keyAllowed := true }

def lexQuoted (l : Lexer) (style : ScalarStyle) : Option Lexer := do
  let l ← l.markKey
  let (text, next) ← readQuoted l.cursor
  pure { l.put (.scalar style (String.ofList text)) next with keyAllowed := false }

def lexPlain (l : Lexer) : Option Lexer := do
  let l ← l.markKey
  let p ← readPlain l.inFlow (l.indent + 1).toNat l.cursor
  pure { l.put (.scalar .plain (String.ofList p.text)) p.cursor with keyAllowed := p.afterBreak }

/-- The marks that cannot begin a plain scalar. -/
def isIndicator (c : Char) : Bool :=
  c ∈ ['-', '?', ':', ',', '[', ']', '{', '}', '#', '&', '*', '!', '|', '>', '\'', '"', '%', '@',
    Char.ofNat 96]

/-- Whether a plain scalar can begin with `c` when `rest` follows. -/
def beginsPlain (inFlow : Bool) (c : Char) (rest : List Char) : Bool :=
  !(isSpace c || isIndicator c) || (c == '-' && !(rest.head?.map isBlank).getD false)
    || (!inFlow && (c == '?' || c == ':') && !atSpace rest)

def lexToken (l : Lexer) (c : Char) (rest : List Char) : Option Lexer :=
  if l.cursor.column = 0 ∧ c = '%' then l.lexDirective
  else if l.cursor.atDocumentMark then l.lexDocumentMark
  else
    match c with
    | '[' => l.lexFlowStart .flowSequenceStart
    | '{' => l.lexFlowStart .flowMappingStart
    | ']' => l.lexFlowEnd .flowSequenceEnd
    | '}' => l.lexFlowEnd .flowMappingEnd
    | ',' => l.lexFlowEntry
    | '*' => l.lexNamed .alias
    | '&' => l.lexNamed .anchor
    | '!' => l.lexTag
    | '\'' => l.lexQuoted .singleQuoted
    | '"' => l.lexQuoted .doubleQuoted
    | _ =>
      if c = '-' ∧ atSpace rest then l.lexBlockEntry
      else if c = '?' ∧ (l.inFlow ∨ atSpace rest) then l.lexKey
      else if c = ':' ∧ (l.inFlow ∨ atSpace rest) then l.lexValue
      else if c = '|' ∧ !l.inFlow then l.lexBlockScalar .literal
      else if c = '>' ∧ !l.inFlow then l.lexBlockScalar .folded
      else if beginsPlain l.inFlow c rest then l.lexPlain
      else none

def run (l : Lexer) : Option Lexer :=
  let (cursor, keyAllowed) := skipSpace l.inFlow l.keyAllowed l.cursor
  let l' := { l with cursor, keyAllowed }.unroll cursor.column
  match cursor.rest with
  | [] => l'.lexStreamEnd
  | c :: rest => do
    let next ← l'.lexToken c rest
    if next.cursor.rest.length < l.cursor.rest.length then next.run else none
termination_by l.cursor.rest.length

end Lexer

def Token.scan? (text : List Char) : Option (List Token) :=
  let text := if text.head? = some byteOrderMark then text.drop 1 else text
  if text.all isAllowed then (Lexer.start text).run.map fun l ↦ l.tokens.reverse else none

end RecordStore.Yaml
