import RecordStore.Number.Hex
import RecordStore.Yaml.Cursor

namespace RecordStore.Yaml

/-!
# Scalars

The content of quoted, plain and block scalars. Where a scalar goes on over several lines its lines
are folded: a single break becomes a blank, and of several breaks all but the first are kept.
Readers return the content in order and the place after the scalar.
-/

/-- The blanks and breaks between two parts of a scalar. -/
structure Gap where
  /-- Blanks, if there is no break. -/
  blanks : List Char
  /-- What the breaks count as, one by one. -/
  breaks : List (List Char)
deriving DecidableEq

namespace Gap

def none : Gap :=
  ⟨[], []⟩

/-- The gap that an escaped break opens. -/
def joined : Gap :=
  ⟨[], [[]]⟩

def hasBreak (g : Gap) : Bool :=
  !g.breaks.isEmpty

def addBlank (g : Gap) (c : Char) : Gap :=
  if g.hasBreak then g else { g with blanks := g.blanks ++ [c] }

def addBreak (g : Gap) (text : List Char) : Gap :=
  { g with breaks := g.breaks ++ [text] }

def folded (g : Gap) : List Char :=
  match g.breaks with
  | [] => g.blanks
  | ['\n'] :: [] => [' ']
  | ['\n'] :: later => later.flatten
  | breaks => breaks.flatten

end Gap

/-- Takes blanks and breaks. After a break no tab may stand before column `limit`. -/
def takeGap (limit : Nat) (g : Gap) (c : Cursor) : Option (Gap × Cursor) :=
  match _h : c.rest with
  | [] => some (g, c)
  | ch :: _ =>
    if isBlank ch then
      if g.hasBreak && c.column < limit && ch == '\t' then none
      else takeGap limit (g.addBlank ch) c.skip
    else if isBreak ch then takeGap limit (g.addBreak c.breakText) c.skipBreak
    else some (g, c)
termination_by c.rest.length
decreasing_by
  · exact Cursor.length_skip_lt _h
  · exact Cursor.length_skipBreak_lt _h

/-- The character that a letter after a backslash stands for. -/
def letterEscape? : Char → Option Char
  | '0' => some '\x00'
  | 'a' => some '\x07'
  | 'b' => some '\x08'
  | 't' => some '\t'
  | '\t' => some '\t'
  | 'n' => some '\n'
  | 'v' => some '\x0b'
  | 'f' => some '\x0c'
  | 'r' => some '\r'
  | 'e' => some '\x1b'
  | ' ' => some ' '
  | '"' => some '"'
  | '/' => some '/'
  | '\\' => some '\\'
  | 'N' => some nextLine
  | '_' => some (Char.ofNat 0xA0)
  | 'L' => some lineSeparator
  | 'P' => some paragraphSeparator
  | _ => none

/-- How many hexadecimal digits follow a letter after a backslash. -/
def codeLength? : Char → Option Nat
  | 'x' => some 2
  | 'u' => some 4
  | 'U' => some 8
  | _ => none

/-- Reads an escape, given what follows the backslash; returns how long it is. -/
def readEscape? : List Char → Option (Char × Nat)
  | [] => none
  | letter :: rest =>
    match letterEscape? letter, codeLength? letter with
    | some c, _ => some (c, 1)
    | none, some count => do
      let digits := rest.take count
      let n ← if digits.length = count then readHex? digits else none
      if (0xD800 ≤ n ∧ n < 0xE000) ∨ 0x10FFFF < n then none
      else some (Char.ofNat n, count + 1)
    | none, none => none

/-- A part of a quoted scalar that stopped, and the gap that begins there. -/
structure QuotedRun where
  done : List Char
  gap : Gap
  cursor : Cursor

/-- Takes the characters of a quoted scalar up to its closing quote or the next space. The content
so far is held in reverse. -/
def quotedRun (quote : Char) (done : List Char) (c : Cursor) : Option QuotedRun :=
  match _h : c.rest with
  | [] => some ⟨done, .none, c⟩
  | ch :: rest =>
    if isSpace ch then some ⟨done, .none, c⟩
    else if ch = quote then
      if quote = '\'' ∧ rest.head? = some '\'' then
        if (c.advance 2).rest.length < c.rest.length then quotedRun quote ('\'' :: done) (c.advance 2)
        else none
      else some ⟨done, .none, c⟩
    else if ch = '\\' ∧ quote = '"' then
      if (rest.head?.map isBreak).getD false then some ⟨done, .joined, c.skip.skipBreak⟩
      else
        match readEscape? rest with
        | some (escaped, length) =>
          if (c.advance (length + 1)).rest.length < c.rest.length then
            quotedRun quote (escaped :: done) (c.advance (length + 1))
          else none
        | none => none
    else quotedRun quote (ch :: done) c.skip
termination_by c.rest.length
decreasing_by
  · assumption
  · assumption
  · exact Cursor.length_skip_lt _h

/-- The rest of a quoted scalar. -/
def quotedFrom (quote : Char) (done : List Char) (c : Cursor) : Option (List Char × Cursor) :=
  if c.atDocumentMark || c.rest.isEmpty then none
  else do
    let run ← quotedRun quote done c
    if run.cursor.peek? = some quote then pure (run.done.reverse, run.cursor.skip)
    else
      let (gap, next) ← takeGap 0 run.gap run.cursor
      if next.rest.length < c.rest.length then
        quotedFrom quote (gap.folded.reverse ++ run.done) next
      else none
termination_by c.rest.length

def readQuoted (c : Cursor) : Option (List Char × Cursor) :=
  match c.peek? with
  | some quote => quotedFrom quote [] c.skip
  | none => none

/-- The marks that have a meaning of their own inside brackets. -/
def isFlowMark (c : Char) : Bool :=
  c ∈ [',', '[', ']', '{', '}']

/-- Takes the characters of a plain scalar up to its end or the next space. -/
def plainRun (inFlow : Bool) (done : List Char) (c : Cursor) : Option (List Char × Cursor) :=
  match _h : c.rest with
  | [] => some (done, c)
  | ch :: rest =>
    let follows (p : Char → Bool) := (rest.head?.map p).getD false
    if isSpace ch then some (done, c)
    else if inFlow && ch == ':' && follows (fun d ↦ isFlowMark d || d == '?') then none
    else if (ch == ':' && atSpace rest) || (inFlow && isFlowMark ch) then some (done, c)
    else plainRun inFlow (ch :: done) c.skip
termination_by c.rest.length
decreasing_by exact Cursor.length_skip_lt _h

/-- What a plain scalar holds, where it ends, and whether a break comes before that place. -/
structure Plain where
  text : List Char
  cursor : Cursor
  afterBreak : Bool

/-- The rest of a plain scalar, `gap` being what stands before the cursor. Outside brackets every
line of it starts at column `limit` or later. -/
def plainFrom (inFlow : Bool) (limit : Nat) (done : List Char) (gap : Gap) (c : Cursor) :
    Option Plain :=
  if c.atDocumentMark || c.peek? == some '#' then some ⟨done.reverse, c, gap.hasBreak⟩
  else do
    let (run, after) ← plainRun inFlow [] c
    let grown := if run = [] then done else run ++ gap.folded.reverse ++ done
    if (after.peek?.map isSpace).getD false then
      let (gap, next) ← takeGap limit .none after
      if !inFlow && next.column < limit then pure ⟨grown.reverse, next, gap.hasBreak⟩
      else if next.rest.length < c.rest.length then plainFrom inFlow limit grown gap next
      else none
    else pure ⟨grown.reverse, after, run.isEmpty && gap.hasBreak⟩
termination_by c.rest.length

def readPlain (inFlow : Bool) (limit : Nat) (c : Cursor) : Option Plain :=
  plainFrom inFlow limit [] .none c

/-- What becomes of the breaks at the end of a block scalar. -/
inductive Chomping
  | strip
  | clip
  | keep
deriving DecidableEq

/-- The two indicators that may follow the mark of a block scalar: what is done with the final
breaks, and how far the content is indented. -/
structure BlockHeader where
  chomping : Chomping
  increment : Option Nat

def chomping? : Char → Option Chomping
  | '+' => some .keep
  | '-' => some .strip
  | _ => none

def increment? (c : Char) : Option Nat :=
  if '1' ≤ c ∧ c ≤ '9' then some (c.toNat - '0'.toNat) else none

/-- Reads the indicators, in either order, and returns how long they are. -/
def readHeader : List Char → BlockHeader × Nat
  | c :: d :: _ =>
    match chomping? c, increment? c with
    | some chomping, _ =>
      match increment? d with
      | some n => (⟨chomping, some n⟩, 2)
      | none => (⟨chomping, none⟩, 1)
    | none, some n =>
      match chomping? d with
      | some chomping => (⟨chomping, some n⟩, 2)
      | none => (⟨.clip, some n⟩, 1)
    | none, none => (⟨.clip, none⟩, 0)
  | [c] =>
    match chomping? c, increment? c with
    | some chomping, _ => (⟨chomping, none⟩, 1)
    | none, some n => (⟨.clip, some n⟩, 1)
    | none, none => (⟨.clip, none⟩, 0)
  | [] => (⟨.clip, none⟩, 0)

/-- Past the blanks that indent a line, but not past column `indent` if that is given. -/
def skipIndent (indent : Option Nat) (c : Cursor) : Cursor :=
  let room := match indent with
    | some n => n - c.column
    | none => c.rest.length
  c.advance ((c.rest.take room).takeWhile (· == ' ')).length

theorem length_skipIndent_le (indent : Option Nat) (c : Cursor) :
    (skipIndent indent c).rest.length ≤ c.rest.length := by
  simp [skipIndent, Cursor.advance]

def isLeftOf (indent : Option Nat) (c : Cursor) : Bool :=
  match indent with
  | some n => c.column < n
  | none => true

/-- Takes the breaks of empty lines and the indentation of the next line. Without an indentation
given, `deepest` becomes that of the most indented of these lines. -/
def takeEmptyLines (indent : Option Nat) (deepest : Nat) (breaks : List Char) (c : Cursor) :
    Option (Nat × List Char × Cursor) :=
  let next := skipIndent indent c
  let deepest := max deepest next.column
  match _h : next.rest with
  | [] => some (deepest, breaks, next)
  | ch :: _ =>
    if isLeftOf indent next && ch == '\t' then none
    else if isBreak ch then
      takeEmptyLines indent deepest (breaks ++ next.breakText) next.skipBreak
    else some (deepest, breaks, next)
termination_by c.rest.length
decreasing_by
  exact Nat.lt_of_lt_of_le (Cursor.length_skipBreak_lt _h) (length_skipIndent_le indent c)

/-- The lines of a block scalar so far, the last break and the empty lines after it. -/
structure BlockLines where
  done : List Char
  lastBreak : List Char
  emptyLines : List Char
  afterBlank : Bool

/-- What separates a line from the lines before it. -/
def BlockLines.separator (b : BlockLines) (isFolded startsBlank : Bool) : List Char :=
  if isFolded && b.lastBreak == ['\n'] && !b.afterBlank && !startsBlank then
    (if b.emptyLines = [] then [' '] else []) ++ b.emptyLines
  else b.lastBreak ++ b.emptyLines

/-- Takes the lines that start at column `indent`. -/
def takeBlockLines (isFolded : Bool) (indent : Nat) (b : BlockLines) (c : Cursor) :
    Option (BlockLines × Cursor) :=
  if c.column ≠ indent ∨ c.rest = [] then some (b, c)
  else do
    let startsBlank := (c.peek?.map isBlank).getD false
    let line := c.rest.takeWhile (!isBreak ·)
    let ended := c.advance line.length
    let (_, emptyLines, next) ← takeEmptyLines (some indent) 0 []
      (if ended.rest.isEmpty then ended else ended.skipBreak)
    let grown : BlockLines :=
      ⟨b.done ++ b.separator isFolded startsBlank ++ line, ended.breakText, emptyLines, startsBlank⟩
    if next.rest.length < c.rest.length then takeBlockLines isFolded indent grown next else none
termination_by c.rest.length

def readBlock (isFolded : Bool) (base : Int) (c : Cursor) : Option (List Char × Cursor) := do
  let (header, length) := readHeader (c.rest.drop 1)
  let c := (c.advance (length + 1)).skipWhile isBlank
  let c := if c.peek? = some '#' then c.skipWhile (!isBreak ·) else c
  if !atBreak c.rest then none
  else
    let c := if c.rest.isEmpty then c else c.skipBreak
    let given := header.increment.map fun n ↦ (max base 0).toNat + n
    let (deepest, emptyLines, c) ← takeEmptyLines given 0 [] c
    let indent := given.getD (max deepest (max (base + 1) 1).toNat)
    let (b, c) ← takeBlockLines isFolded indent ⟨[], [], emptyLines, false⟩ c
    let tail := match header.chomping with
      | .strip => []
      | .clip => b.lastBreak
      | .keep => b.lastBreak ++ b.emptyLines
    pure (b.done ++ tail, c)

end RecordStore.Yaml
