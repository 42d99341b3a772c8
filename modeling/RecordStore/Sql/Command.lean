import RecordStore.Sql.Token

namespace RecordStore.Sql

/-!
# Commands

The commands that records are stored with. `Command.render` writes a command in a dialect and
`Command.read?` reads the text of one; the places of its parameters are numbered from one in the
order in which they stand.
-/

/-- Rows whose key is one of `count` parameters. -/
structure KeyFilter where
  key : String
  count : Nat
deriving DecidableEq

inductive Command
  | select (columns : List String) (table : TableName) (filter : Option KeyFilter)
  | count (table : TableName)
  | insert (table : TableName) (columns : List String) (places : Nat)
  | update (table : TableName) (columns : List String) (key : String)
  | delete (table : TableName) (filter : Option KeyFilter)
deriving DecidableEq

def word (letters : String) : Lexeme := .token (.word letters)

def mark (c : Char) : Lexeme := .token (.mark c)

def ident (identifier : String) : Lexeme := .token (.name identifier)

def place (d : Dialect) (index : Nat) : Lexeme := .token (.placeIn d index)

/-- Items with a comma and a blank between them. -/
def commas : List (List Lexeme) → List Lexeme
  | [] => []
  | [item] => item
  | item :: rest => item ++ mark ',' :: .gap :: commas rest

def tableLexemes (table : TableName) : List Lexeme :=
  match table.schema with
  | some schema => [ident schema, mark '.', ident table.name]
  | none => [ident table.name]

def nameLexemes (columns : List String) : List Lexeme :=
  commas (columns.map fun c ↦ [ident c])

/-- `count` places, the first for parameter `first`. -/
def placeLexemes (d : Dialect) (first count : Nat) : List Lexeme :=
  commas ((List.range' first count).map fun i ↦ [place d i])

/-- Columns set to the parameters from `first` on. -/
def assignmentLexemes (d : Dialect) (first : Nat) (columns : List String) : List Lexeme :=
  commas ((columns.zipIdx first).map fun (c, i) ↦ [ident c, .gap, mark '=', .gap, place d i])

def filterLexemes (d : Dialect) : Option KeyFilter → List Lexeme
  | none => []
  | some f =>
    [.gap, word "WHERE", .gap, ident f.key, .gap, word "IN", .gap, mark '(']
      ++ placeLexemes d 1 f.count ++ [mark ')']

def Command.lexemes (d : Dialect) : Command → List Lexeme
  | select columns table filter =>
    [word "SELECT", .gap] ++ nameLexemes columns ++ [.gap, word "FROM", .gap]
      ++ tableLexemes table ++ filterLexemes d filter
  | count table =>
    [word "SELECT", .gap, word "COUNT", mark '(', mark '*', mark ')', .gap, word "FROM", .gap]
      ++ tableLexemes table
  | insert table columns places =>
    [word "INSERT", .gap, word "INTO", .gap] ++ tableLexemes table ++ [.gap, mark '(']
      ++ nameLexemes columns ++ [mark ')', .gap, word "VALUES", .gap, mark '(']
      ++ placeLexemes d 1 places ++ [mark ')']
  | update table columns key =>
    [word "UPDATE", .gap] ++ tableLexemes table ++ [.gap, word "SET", .gap]
      ++ assignmentLexemes d 1 columns
      ++ [.gap, word "WHERE", .gap, ident key, .gap, mark '=', .gap, place d (columns.length + 1)]
  | delete table filter =>
    [word "DELETE", .gap, word "FROM", .gap] ++ tableLexemes table ++ filterLexemes d filter

def Command.render (d : Dialect) (c : Command) : String :=
  String.ofList (spell d (c.lexemes d))

/-! ## Texts

The text of a command is put together of the names and the placeholders of the dialect. -/

@[simp] theorem spell_nil (d : Dialect) : spell d [] = [] := rfl

theorem spell_append (d : Dialect) (xs ys : List Lexeme) :
    spell d (xs ++ ys) = spell d xs ++ spell d ys :=
  List.flatMap_append

theorem spell_cons (d : Dialect) (lexeme : Lexeme) (lexemes : List Lexeme) :
    spell d (lexeme :: lexemes) = lexeme.spell d ++ spell d lexemes :=
  List.flatMap_cons

theorem Lexeme.spell_word (d : Dialect) (letters : String) :
    (word letters).spell d = letters.toList := rfl

theorem Lexeme.spell_gap (d : Dialect) : gap.spell d = [' '] := rfl

theorem Lexeme.spell_mark (d : Dialect) (c : Char) : (mark c).spell d = [c] := rfl

theorem Lexeme.spell_ident (d : Dialect) (name : String) :
    (ident name).spell d = (d.quote name).toList := by
  rw [Dialect.quote, Quoting.quote, String.toList_ofList]
  rfl

theorem Lexeme.spell_placeholder (d : Dialect) (index : Nat) :
    (place d index).spell d = (d.placeholder index).toList := by
  rw [Dialect.placeholder, String.toList_ofList]
  cases d <;> rfl

theorem spell_tableLexemes (d : Dialect) (table : TableName) :
    spell d (tableLexemes table) = (d.qualify table).toList := by
  obtain ⟨schema, name⟩ := table
  cases schema with
  | none => simp [tableLexemes, Dialect.qualify, spell, Lexeme.spell_ident]
  | some schema =>
      simp [tableLexemes, Dialect.qualify, spell, Lexeme.spell_ident, Lexeme.spell_mark]

/-- Items are written with a comma and a blank between them. -/
theorem spell_commas {d : Dialect} {α : Type} {item : α → List Lexeme} {text : α → String}
    (h : ∀ x, spell d (item x) = (text x).toList) (xs : List α) :
    spell d (commas (xs.map item)) = (", ".intercalate (xs.map text)).toList := by
  induction xs with
  | nil => rfl
  | cons x rest ih =>
      cases rest with
      | nil => simp [commas, h]
      | cons next rest =>
          simp only [List.map_cons, commas, spell_append, spell_cons, h, String.intercalate_cons_cons,
            String.toList_append, List.append_assoc] at ih ⊢
          rw [ih]
          rfl

/-- The placeholders of the first `count` parameters. -/
def placeholders (d : Dialect) (count : Nat) : String :=
  ", ".intercalate ((List.range' 1 count).map d.placeholder)

def filterText (d : Dialect) : Option KeyFilter → String
  | none => ""
  | some f => " WHERE " ++ d.quote f.key ++ " IN (" ++ placeholders d f.count ++ ")"

theorem spell_nameLexemes (d : Dialect) (columns : List String) :
    spell d (nameLexemes columns) = (", ".intercalate (columns.map d.quote)).toList :=
  spell_commas (fun c ↦ by simp [spell, Lexeme.spell_ident]) columns

theorem spell_placeLexemes (d : Dialect) (count : Nat) :
    spell d (placeLexemes d 1 count) = (placeholders d count).toList :=
  spell_commas (fun i ↦ by simp [spell, Lexeme.spell_placeholder]) (List.range' 1 count)

theorem spell_assignmentLexemes (d : Dialect) (columns : List String) :
    spell d (assignmentLexemes d 1 columns) = (", ".intercalate ((columns.zipIdx 1).map
      fun (c, i) ↦ d.quote c ++ " = " ++ d.placeholder i)).toList := by
  refine spell_commas (fun (c, i) ↦ ?_) (columns.zipIdx 1)
  simp [spell, Lexeme.spell_ident, Lexeme.spell_placeholder, Lexeme.spell_mark, Lexeme.spell_gap]

theorem spell_filterLexemes (d : Dialect) (filter : Option KeyFilter) :
    spell d (filterLexemes d filter) = (filterText d filter).toList := by
  cases filter with
  | none => rfl
  | some f =>
      simp only [filterLexemes, filterText, spell_append, spell_placeLexemes, String.toList_append]
      simp [spell, Lexeme.spell_ident, Lexeme.spell_mark, Lexeme.spell_word, Lexeme.spell_gap]

namespace Command

variable (d : Dialect) (table : TableName) (columns : List String) (filter : Option KeyFilter)

theorem render_select : (select columns table filter).render d
    = "SELECT " ++ ", ".intercalate (columns.map d.quote) ++ " FROM " ++ d.qualify table
      ++ filterText d filter := by
  rw [← String.toList_inj, render, String.toList_ofList, lexemes]
  simp [spell_append, spell_cons, spell_nameLexemes, spell_tableLexemes, spell_filterLexemes,
    Lexeme.spell_word, Lexeme.spell_gap]

theorem render_count : (count table).render d = "SELECT COUNT(*) FROM " ++ d.qualify table := by
  rw [← String.toList_inj, render, String.toList_ofList, lexemes]
  simp [spell_cons, spell_tableLexemes, Lexeme.spell_word, Lexeme.spell_mark, Lexeme.spell_gap]

theorem render_insert (places : Nat) : (insert table columns places).render d
    = "INSERT INTO " ++ d.qualify table ++ " (" ++ ", ".intercalate (columns.map d.quote)
      ++ ") VALUES (" ++ placeholders d places ++ ")" := by
  rw [← String.toList_inj, render, String.toList_ofList, lexemes]
  simp [spell_append, spell_cons, spell_nameLexemes, spell_tableLexemes, spell_placeLexemes,
    Lexeme.spell_word, Lexeme.spell_mark, Lexeme.spell_gap]

theorem render_update (key : String) : (update table columns key).render d
    = "UPDATE " ++ d.qualify table ++ " SET " ++ ", ".intercalate ((columns.zipIdx 1).map
        fun (c, i) ↦ d.quote c ++ " = " ++ d.placeholder i)
      ++ " WHERE " ++ d.quote key ++ " = " ++ d.placeholder (columns.length + 1) := by
  rw [← String.toList_inj, render, String.toList_ofList, lexemes]
  simp [spell_append, spell_cons, spell_tableLexemes, spell_assignmentLexemes,
    Lexeme.spell_word, Lexeme.spell_ident, Lexeme.spell_mark, Lexeme.spell_placeholder,
    Lexeme.spell_gap]

theorem render_delete : (delete table filter).render d
    = "DELETE FROM " ++ d.qualify table ++ filterText d filter := by
  rw [← String.toList_inj, render, String.toList_ofList, lexemes]
  simp [spell_append, spell_cons, spell_tableLexemes, spell_filterLexemes, Lexeme.spell_word,
    Lexeme.spell_gap]

end Command

/-! ## Reading -/

/-- Whether a place can be that of parameter `index`. -/
def fits (index : Nat) : Option Nat → Bool
  | some i => i == index
  | none => true

def takeTable? : List Token → Option (TableName × List Token)
  | .name schema :: .mark '.' :: .name table :: rest => some (⟨some schema, table⟩, rest)
  | .name table :: rest => some (⟨none, table⟩, rest)
  | _ => none

def takeNames? : List Token → Option (List String × List Token)
  | .name c :: .mark ',' :: rest => (takeNames? rest).map fun (cs, rest) ↦ (c :: cs, rest)
  | .name c :: rest => some ([c], rest)
  | _ => none

/-- Takes places from parameter `next` on and returns the number of the last one. -/
def takePlaces? (next : Nat) : List Token → Option (Nat × List Token)
  | .place i :: .mark ',' :: rest => if fits next i then takePlaces? (next + 1) rest else none
  | .place i :: rest => if fits next i then some (next, rest) else none
  | _ => none

def takeAssignments? (next : Nat) : List Token → Option (List String × List Token)
  | .name c :: .mark '=' :: .place i :: .mark ',' :: rest =>
    if fits next i then (takeAssignments? (next + 1) rest).map fun (cs, rest) ↦ (c :: cs, rest)
    else none
  | .name c :: .mark '=' :: .place i :: rest => if fits next i then some ([c], rest) else none
  | _ => none

def filterOf? : List Token → Option (Option KeyFilter)
  | [] => some none
  | .word "WHERE" :: .name key :: .word "IN" :: .mark '(' :: rest =>
    match takePlaces? 1 rest with
    | some (count, [.mark ')']) => some (some ⟨key, count⟩)
    | _ => none
  | _ => none

def insertOf? (table : TableName) : List Token → Option Command
  | .mark '(' :: rest => do
    let (columns, rest) ← takeNames? rest
    match rest with
    | .mark ')' :: .word "VALUES" :: .mark '(' :: rest =>
      match takePlaces? 1 rest with
      | some (count, [.mark ')']) => some (.insert table columns count)
      | _ => none
    | _ => none
  | _ => none

def updateOf? (table : TableName) : List Token → Option Command
  | .word "SET" :: rest => do
    let (columns, rest) ← takeAssignments? 1 rest
    match rest with
    | [.word "WHERE", .name key, .mark '=', .place i] =>
      if fits (columns.length + 1) i then some (.update table columns key) else none
    | _ => none
  | _ => none

def Command.ofTokens? : List Token → Option Command
  | .word "SELECT" :: .word "COUNT" :: .mark '(' :: .mark '*' :: .mark ')' :: .word "FROM" :: rest =>
    match takeTable? rest with
    | some (table, []) => some (.count table)
    | _ => none
  | .word "SELECT" :: rest => do
    let (columns, rest) ← takeNames? rest
    match rest with
    | .word "FROM" :: rest => do
      let (table, rest) ← takeTable? rest
      (filterOf? rest).map (.select columns table)
    | _ => none
  | .word "INSERT" :: .word "INTO" :: rest => do
    let (table, rest) ← takeTable? rest
    insertOf? table rest
  | .word "UPDATE" :: rest => do
    let (table, rest) ← takeTable? rest
    updateOf? table rest
  | .word "DELETE" :: .word "FROM" :: rest => do
    let (table, rest) ← takeTable? rest
    (filterOf? rest).map (.delete table)
  | _ => none

def Command.read? (d : Dialect) (text : String) : Option Command := do
  let tokens ← scan d text.toList
  Command.ofTokens? tokens

end RecordStore.Sql
