import RecordStore.Proofs.Sql.Read
import RecordStore.Statement

namespace RecordStore

open Sql (Command Token tokens withCommas)

/-!
# What the text of a statement says

A statement is a template of keywords and marks in which names and places stand. Its text is scanned
back into that template, whatever characters the names are made of, so a text says which table and
which columns it is about and for how many keys.
-/

/-! ## Templates -/

namespace Sql

def tableTokens (table : TableName) : List Token :=
  match table.schema with
  | some schema => [.name schema, .mark '.', .name table.name]
  | none => [.name table.name]

/-- Names with commas between them. -/
def nameTokens (columns : List String) : List Token :=
  [Token.mark ','].intercalate (columns.map fun c ↦ [.name c])

/-- The places of the parameters from the first to the last, with commas between them. -/
def placeTokens (d : Dialect) (count : Nat) : List Token :=
  [Token.mark ','].intercalate ((List.range' 1 count).map fun i ↦ [.placeIn d i])

/-- Every column set to the parameter of its position, with commas between the settings. -/
def settingTokens (d : Dialect) (columns : List String) : List Token :=
  [Token.mark ','].intercalate
    ((columns.zipIdx 1).map fun (c, i) ↦ [.name c, .mark '=', .placeIn d i])

/-- The key being one of as many parameters as there are keys. -/
def keyTokens (d : Dialect) (key : String) (count : Nat) : List Token :=
  [.word "WHERE", .name key, .word "IN", .mark '('] ++ placeTokens d count ++ [.mark ')']

end Sql

open Sql (tableTokens nameTokens placeTokens settingTokens keyTokens)

namespace Statement

/-- The tokens of a statement over `count` keys. -/
def template (s : Statement) (d : Dialect) (l : Layout) (count : Nat) : List Token :=
  match s with
  | selectAll => [.word "SELECT"] ++ nameTokens l.columns ++ [.word "FROM"] ++ tableTokens l.table
  | selectSome =>
    [.word "SELECT"] ++ nameTokens l.columns ++ [.word "FROM"] ++ tableTokens l.table
      ++ keyTokens d l.keyColumn count
  | selectKeys =>
    [.word "SELECT", .name l.keyColumn, .word "FROM"] ++ tableTokens l.table
      ++ keyTokens d l.keyColumn count
  | selectCount =>
    [.word "SELECT", .word "COUNT", .mark '(', .mark '*', .mark ')', .word "FROM"]
      ++ tableTokens l.table
  | insert =>
    [.word "INSERT", .word "INTO"] ++ tableTokens l.table ++ [.mark '('] ++ nameTokens l.columns
      ++ [.mark ')', .word "VALUES", .mark '('] ++ placeTokens d l.columns.length ++ [.mark ')']
  | update =>
    [.word "UPDATE"] ++ tableTokens l.table ++ [.word "SET"] ++ settingTokens d l.fieldNames
      ++ [.word "WHERE", .name l.keyColumn, .mark '=', .placeIn d (l.fieldNames.length + 1)]
  | delete => [.word "DELETE", .word "FROM"] ++ tableTokens l.table ++ keyTokens d l.keyColumn count
  | deleteAll => [.word "DELETE", .word "FROM"] ++ tableTokens l.table

/-- The columns that a statement mentions, in the order in which it does. -/
def columns (s : Statement) (l : Layout) : List String :=
  match s with
  | selectAll | insert => l.columns
  | selectSome => l.columns ++ [l.keyColumn]
  | selectKeys => [l.keyColumn, l.keyColumn]
  | update => l.fieldNames ++ [l.keyColumn]
  | delete => [l.keyColumn]
  | selectCount | deleteAll => []

end Statement

namespace Sql

def Command.table : Command → TableName
  | select _ table _ => table
  | count table => table
  | insert table _ _ => table
  | update table _ _ => table
  | delete table _ => table

variable {d : Dialect}

end Sql

/-! ## Commands of a layout -/

namespace Layout

variable {l : Layout} {d : Dialect} {s : Statement} {count : Nat} {c : Command}

theorem command?_eq_none_iff : l.command? s count = none ↔ s = .update ∧ l.fields = [] := by
  cases s <;> simp [command?]

theorem listed_command? (hcount : s.isSized = true → count ≠ 0)
    (h : l.command? s count = some c) : c.Listed := by
  cases s with
  | update =>
      by_cases hfields : l.fields = []
      · simp [command?, hfields] at h
      · simp only [command?, hfields, if_false, Option.some.injEq] at h
        subst h
        simpa [Command.Listed, fieldNames] using hfields
  | selectSome | selectKeys | delete =>
      have hcount : count ≠ 0 := hcount rfl
      cases h
      simp [Command.Listed, Sql.KeyFilter.Listed, columns, hcount]
  | _ =>
      cases h
      simp [Command.Listed, Sql.KeyFilter.Listed, columns]

/-- A text is read as the command of its statement, unless it is about no keys. -/
theorem read?_sql? {text : String} (hcount : s.isSized = true → count ≠ 0)
    (h : l.sql? d s count = some text) :
    ∃ c, l.command? s count = some c ∧ Command.read? d text = some c := by
  obtain ⟨c, hc, rfl⟩ := Option.map_eq_some_iff.mp h
  exact ⟨c, hc, Command.read?_render (listed_command? hcount hc)⟩

end Layout

end RecordStore
