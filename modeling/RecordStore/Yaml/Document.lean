import RecordStore.Yaml.Lexer

namespace RecordStore.Yaml

/-!
# Documents

A document is a tree of nodes. A node may be given an anchor, to which aliases refer later on, even
from inside that node; an alias holds the number of its anchor, and the document holds the node of
every anchor.
-/

inductive Node
  | scalar (tag : Option String) (style : ScalarStyle) (text : String)
  | sequence (tag : Option String) (items : List Node)
  | mapping (tag : Option String) (entries : List (Node × Node))
  | alias (anchor : Nat)

/-- What stands where nothing is written. -/
def Node.absent (tag : Option String) : Node :=
  scalar tag .plain ""

structure Document where
  root : Node
  anchored : List (Nat × Node)

/-- The node itself or the one its alias refers to. -/
def Document.follow (d : Document) : Node → Node
  | .alias anchor => (d.anchored.lookup anchor).getD (.absent none)
  | n => n

/-- What is left to read, the tag handles in force and the anchors met so far. -/
structure Composing where
  tokens : List Token
  handles : List (String × String)
  names : List (String × Nat)
  anchored : List (Nat × Node)

abbrev Compose := StateT Composing Option

namespace Compose

def peek? : Compose (Option Token) := do
  return (← get).tokens.head?

def skip : Compose Unit :=
  modify fun s ↦ { s with tokens := s.tokens.drop 1 }

def meets (ts : List Token) : Compose Bool := do
  return ((← peek?).map ts.contains).getD false

def take (t : Token) : Compose Bool := do
  if ← meets [t] then
    skip
    return true
  else return false

/-- The number of a new anchor, which its name now refers to. -/
def addAnchor (name : String) : Compose Nat :=
  modifyGet fun s ↦ (s.names.length, { s with names := (name, s.names.length) :: s.names })

def resolveTag (handle tail : String) : Compose String := do
  if handle = "" then return tail
  match (← get).handles.lookup handle with
  | some head => return head ++ tail
  | none => failure

/-- The anchor and the tag in front of a node, in either order. -/
def properties : Compose (Option String × Option (String × String)) := do
  match ← peek? with
  | some (.anchor name) =>
    skip
    match ← peek? with
    | some (.tag handle tail) =>
      skip
      return (some name, some (handle, tail))
    | _ => return (some name, none)
  | some (.tag handle tail) =>
    skip
    match ← peek? with
    | some (.anchor name) =>
      skip
      return (some name, some (handle, tail))
    | _ => return (none, some (handle, tail))
  | _ => return (none, none)

/-- The tag `!` says nothing. -/
def tagOf : Option (String × String) → Compose (Option String)
  | none => return none
  | some (handle, tail) => do
    let tag ← resolveTag handle tail
    return if tag = "!" then none else some tag

/-- A node, or one that is absent if the next token is one of `ends`. -/
def orAbsent (ends : List Token) (node : Compose Node) : Compose Node := do
  if ← meets ends then return .absent none else node

def blockEnds : List Token := [.key, .value, .blockEnd]

mutual

/-- The node at the next token. Block collections are only read where `inBlock` says so, and a
sequence without an indentation of its own only where `indentless` does. -/
def node (inBlock indentless : Bool) : Nat → Compose Node
  | 0 => failure
  | fuel + 1 => do
    match ← peek? with
    | some (.alias name) =>
      skip
      match (← get).names.lookup name with
      | some anchor => return .alias anchor
      | none => failure
    | _ =>
      let (name, written) ← properties
      let tag ← tagOf written
      let anchor ← name.mapM addAnchor
      let n ← content inBlock indentless (name.isSome || written.isSome) tag fuel
      if let some anchor := anchor then
        modify fun s ↦ { s with anchored := (anchor, n) :: s.anchored }
      return n

/-- A node without its anchor and tag; it may be absent if it has one of the two. -/
def content (inBlock indentless mayBeAbsent : Bool) (tag : Option String) : Nat → Compose Node
  | 0 => failure
  | fuel + 1 => do
    match ← peek? with
    | some (.scalar style text) =>
      skip
      return .scalar tag style text
    | some .flowSequenceStart =>
      skip
      return .sequence tag (← flowItems true fuel)
    | some .flowMappingStart =>
      skip
      return .mapping tag (← flowEntries true fuel)
    | some .blockEntry =>
      if indentless then return .sequence tag (← indentlessItems fuel)
      else if mayBeAbsent then return .absent tag
      else failure
    | some .blockSequenceStart =>
      if inBlock then
        skip
        return .sequence tag (← blockItems fuel)
      else if mayBeAbsent then return .absent tag
      else failure
    | some .blockMappingStart =>
      if inBlock then
        skip
        return .mapping tag (← blockEntries fuel)
      else if mayBeAbsent then return .absent tag
      else failure
    | _ => if mayBeAbsent then return .absent tag else failure

def blockItems : Nat → Compose (List Node)
  | 0 => failure
  | fuel + 1 => do
    if ← take .blockEntry then
      let item ← orAbsent [.blockEntry, .blockEnd] (node true false fuel)
      return item :: (← blockItems fuel)
    else if ← take .blockEnd then return []
    else failure

def indentlessItems : Nat → Compose (List Node)
  | 0 => failure
  | fuel + 1 => do
    if ← take .blockEntry then
      let item ← orAbsent (.blockEntry :: blockEnds) (node true false fuel)
      return item :: (← indentlessItems fuel)
    else return []

def blockEntries : Nat → Compose (List (Node × Node))
  | 0 => failure
  | fuel + 1 => do
    if ← take .key then
      let key ← orAbsent blockEnds (node true true fuel)
      let value ←
        if ← take .value then orAbsent blockEnds (node true true fuel) else pure (.absent none)
      return (key, value) :: (← blockEntries fuel)
    else if ← take .blockEnd then return []
    else failure

def flowItems (isFirst : Bool) : Nat → Compose (List Node)
  | 0 => failure
  | fuel + 1 => do
    if ← take .flowSequenceEnd then return []
    if !isFirst then
      if !(← take .flowEntry) then failure
    if ← take .flowSequenceEnd then return []
    let item ←
      if ← take .key then pure (.mapping none [← pair fuel]) else node false false fuel
    return item :: (← flowItems false fuel)

/-- The single entry of a mapping inside a flow sequence, after the mark of its key. -/
def pair : Nat → Compose (Node × Node)
  | 0 => failure
  | fuel + 1 => do
    let key ←
      if ← meets [.value, .flowEntry, .flowSequenceEnd] then
        skip
        pure (.absent none)
      else node false false fuel
    let value ←
      if ← take .value then orAbsent [.flowEntry, .flowSequenceEnd] (node false false fuel)
      else pure (.absent none)
    return (key, value)

def flowEntries (isFirst : Bool) : Nat → Compose (List (Node × Node))
  | 0 => failure
  | fuel + 1 => do
    if ← take .flowMappingEnd then return []
    if !isFirst then
      if !(← take .flowEntry) then failure
    if ← take .flowMappingEnd then return []
    let entry ←
      if ← take .key then
        let key ← orAbsent [.value, .flowEntry, .flowMappingEnd] (node false false fuel)
        let value ←
          if ← take .value then orAbsent [.flowEntry, .flowMappingEnd] (node false false fuel)
          else pure (.absent none)
        pure (key, value)
      else pure (← node false false fuel, .absent none)
    return entry :: (← flowEntries false fuel)

end

def defaultHandles : List (String × String) := [("!", "!"), ("!!", "tag:yaml.org,2002:")]

/-- The directives in front of a document; whether there was a version among them. -/
def directives (hasVersion : Bool) : List Token → Compose Unit
  | .versionDirective major minor :: rest => do
    if hasVersion || major != 1 || (minor != 1 && minor != 2) then failure
    skip
    directives true rest
  | .tagDirective handle head :: rest => do
    if ((← get).handles.lookup handle).isSome then failure
    modify fun s ↦ { s with handles := (handle, head) :: s.handles }
    skip
    directives hasVersion rest
  | _ => pure ()

def stream : Compose Node := do
  let fuel := 8 * (← get).tokens.length + 8
  let start := (← get).tokens
  directives false start
  let isExplicit := (← get).tokens.length < start.length
  modify fun s ↦ { s with handles := s.handles ++ defaultHandles }
  let root ←
    if ← take .documentStart then
      match ← peek? with
      | none => pure (.absent none)
      | some .documentEnd => pure (.absent none)
      | _ => node true false fuel
    else if isExplicit then failure
    else node true false fuel
  let rest := (← get).tokens
  if rest.all (· == .documentEnd) then return root else failure

end Compose

/-- The document a text consists of. A text of no document or of several is refused. -/
def Document.read? (text : String) : Option Document := do
  let tokens ← Token.scan? text.toList
  let (root, s) ← Compose.stream.run ⟨tokens, [], [], []⟩
  pure ⟨root, s.anchored⟩

end RecordStore.Yaml
