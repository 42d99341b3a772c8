import RecordStore.Proofs.CommandLine.Runs
import RecordStore.Proofs.Sqlite.Spared

namespace RecordStore

/-!
# What a failing command leaves behind

A command that fails has changed no database of its workspace. It has printed nothing either, with
one exception: without JSON the statements of a type are printed one by one while they are spelled,
so over no keys the first of them has been printed when the second is refused.
-/

/-! ## The workspace -/

namespace CommandLine

namespace Workspace

/-- The database kept at a path; there is an empty one where none is kept. -/
def databaseAt (w : Workspace) (path : String) : Sqlite.Database :=
  (w.databases.lookup path).getD []

theorem databaseAt_replace (w : Workspace) (path other : String) (d : Sqlite.Database) :
    databaseAt { w with databases := (path, d) :: w.databases.filter (·.1 ≠ path) } other
      = if other = path then d else w.databaseAt other := by
  unfold databaseAt
  by_cases hpath : other = path
  · rw [if_pos hpath, hpath, List.lookup_cons_self, Option.getD_some]
  · have hne : (other == path) = false := by simpa using hpath
    have hfilter : (fun entry : String × Sqlite.Database ↦ decide (entry.1 ≠ path))
        = fun entry ↦ entry.1 != path := by
      funext entry
      exact decide_not
    rw [if_neg hpath, List.lookup_cons, hne, hfilter]
    exact congrArg (Option.getD · []) (Registry.lookup_filter_ne hpath w.databases)

theorem databaseAt_save {w : Workspace} {url : String} {connection c : Sqlite.Connection}
    (hopen : w.connect url = .ok connection) (hsame : c.committed = connection.committed)
    (path : String) : (w.save url c).databaseAt path = w.databaseAt path := by
  unfold connect at hopen
  unfold save
  split
  · rfl
  · next location hlocation =>
    rw [hlocation] at hopen
    dsimp only at hopen ⊢
    by_cases hprivate : location.isPrivate = true ∨ location.path = ""
    · rw [if_pos hprivate]
    · rw [if_neg hprivate] at hopen ⊢
      cases hplace : w.databasePath? location.path with
      | none => rfl
      | some place =>
          rw [hplace] at hopen
          cases hopen
          rw [databaseAt_replace]
          split
          · next hpath =>
            rw [hsame, hpath]
            rfl
          · rfl

/-- An action on the store that fails leaves every database as it was, if it takes back what it
does. -/
theorem databaseAt_withStore {α : Type} {w : Workspace} {c : Config} {act : Store → Action α}
    (hwithin : ∀ s : Store, s.registry.Reachable → (act s).Within s.registry)
    (hreverts : ∀ s, (act s).Reverts) (hvalid : c.Valid)
    (h : (w.withStore c act).1.isOk = false) (path : String) :
    (w.withStore c act).2.databaseAt path = w.databaseAt path := by
  obtain ⟨store, hstore, hremembers⟩ := Store.exists_ofConfig hvalid
  unfold withStore at h ⊢
  rw [hstore] at h ⊢
  cases hopen : w.connect c.database.url with
  | error fault => rfl
  | ok connection =>
      rw [hopen] at h
      obtain ⟨⟨-, -, -, hsame⟩, -⟩ := (hreverts store connection).run hremembers.reachable
        (hwithin store hremembers.reachable)
      apply databaseAt_save hopen
      exact hsame h

end Workspace

/-! ## The commands -/

variable {w : Workspace} {c : Config} {typeName : String}

theorem reads_readIds {s : Store} (operation : String) (ids : List String) :
    (readIds s typeName operation ids).Reads :=
  (Action.reads_ofExcept _).bind fun _ ↦ Action.reads_ofExcept _

theorem databaseAt_runCommand (hvalid : c.Valid) {json : Bool} {command : Command}
    (h : (runCommand w json c command).1.outcome.isOk = false) (path : String) :
    (runCommand w json c command).2.databaseAt path = w.databaseAt path := by
  cases command with
  | types | sql | checkConfig => rfl
  | count typeName =>
      apply Workspace.databaseAt_withStore _ _ hvalid ((isOk_ofResult ..).symm.trans h)
      · exact fun s hs ↦ Store.within_getSize hs typeName
      · exact fun s ↦ (Store.reads_getSize typeName).reverts
  | list typeName =>
      apply Workspace.databaseAt_withStore _ _ hvalid ((isOk_ofResult ..).symm.trans h)
      · exact fun s hs ↦ Store.within_getAll hs typeName
      · exact fun s ↦ (Store.reads_getAll typeName).reverts
  | get typeName ids =>
      apply Workspace.databaseAt_withStore _ _ hvalid ((isOk_ofResult ..).symm.trans h)
      · exact fun s hs ↦ (within_readIds _ ids).bind fun keys ↦ Store.within_getSome hs typeName keys
      · exact fun s ↦ (reads_readIds _ ids).bind fun keys ↦
          (Store.reads_getSome typeName keys).reverts
  | remove typeName ids =>
      apply Workspace.databaseAt_withStore _ _ hvalid ((isOk_ofResult ..).symm.trans h)
      · exact fun s hs ↦ (within_readIds _ ids).bind fun keys ↦ Store.within_remove hs typeName keys
      · exact fun s ↦ (reads_readIds _ ids).bind fun keys ↦ Store.reverts_remove typeName keys
  | removeAll typeName =>
      apply Workspace.databaseAt_withStore _ _ hvalid ((isOk_ofResult ..).symm.trans h)
      · exact fun s hs ↦ Store.within_removeAll hs typeName
      · exact fun s ↦ Store.reverts_removeAll typeName

/-- Over no keys the second statement of a type is refused, when the first has been spelled. -/
theorem textsOf_zero (l : Layout) (d : Dialect) :
    Statement.textsOf (fun s ↦ l.requested d s 0) Statement.all
      = ([("select_all", (Sql.Command.select l.columns l.table none).render d)],
        .error (.illegalArgument (.noKeys "select_some" l.typeName))) := rfl

theorem bookOf_eq_ok {dialect : Option String} {b : StatementBook}
    (h : bookOf c typeName dialect = .ok b) : b.Sound := by
  unfold bookOf at h
  split at h
  · cases h
  · split at h
    · cases h
    · obtain ⟨l, -, hbook⟩ := bind_eq_ok.mp h
      cases hbook
      exact StatementBook.sound_empty l _

theorem printStatementsOf_zero {dialect : Option String} {b : StatementBook}
    (h : bookOf c typeName dialect = .ok b) (json : Bool) :
    printStatementsOf json c typeName dialect 0
      = ⟨if json then []
          else ["select_all: " ++ (Sql.Command.select b.layout.columns b.layout.table none).render
            b.dialect],
        .error (.illegalArgument (.noKeys "select_some" b.layout.typeName))⟩ := by
  have hprinted := printStatements_eq (bookOf_eq_ok h) json 0
  rw [textsOf_zero] at hprinted
  unfold printStatementsOf
  rw [h]
  exact hprinted

/-- The texts of all statements that a layout has, over a count in figures. -/
def textsFor (b : StatementBook) (count : UInt64) : List (String × String) :=
  Statement.all.filterMap fun s ↦
    (b.layout.sql? b.dialect s (Layout.placesFor count)).map (s.name, ·)

/-- With a key to list no statement is refused. -/
theorem printStatements_of_ne_zero {b : StatementBook} (h : b.Sound) (json : Bool) {count : UInt64}
    (hcount : count ≠ 0) :
    printStatements json count b = printedTexts json (textsFor b count) (.ok ()) := by
  have htext : ∀ s ∈ Statement.all, b.layout.requested b.dialect s count
      = .ok (b.layout.sql? b.dialect s (Layout.placesFor count)) :=
    fun s _ ↦ if_neg fun hnone ↦ hcount hnone.2
  rw [printStatements_eq h, Statement.textsOf_of_ok htext]
  rfl

theorem lines_ofResult {α : Type} {lines : α → List String} {outcome : Except Error α}
    (h : (Printing.ofResult lines outcome).outcome.isOk = false) :
    (Printing.ofResult lines outcome).lines = [] := by
  cases outcome with
  | ok a => cases h
  | error e => rfl

/-- A failing command has printed no line, unless it has listed statements over no keys. -/
theorem lines_runCommand (hvalid : c.Valid) {json : Bool} {command : Command}
    (h : (runCommand w json c command).1.outcome.isOk = false) :
    (runCommand w json c command).1.lines = [] ∨
      ∃ typeName dialect b, json = false ∧ command = .sql typeName dialect 0 ∧
        bookOf c typeName dialect = .ok b := by
  cases command with
  | types =>
      obtain ⟨layouts, hlayouts⟩ := exists_layouts hvalid.resolves
      obtain ⟨⟨blocks, -, hlines⟩, entries, -, hjson⟩ := printTypes_of_forall₂ hlayouts
      cases json with
      | true =>
          simp only [runCommand, hjson] at h
          cases h
      | false =>
          simp only [runCommand, hlines] at h
          cases h
  | checkConfig =>
      simp only [runCommand, printSummary] at h
      split at h <;> cases h
  | sql typeName dialect count =>
      cases hbook : bookOf c typeName dialect with
      | error e => exact .inl (by simp only [runCommand, printStatementsOf, hbook, Printing.failed])
      | ok b =>
          by_cases hcount : count = 0
          · subst hcount
            cases json with
            | true => exact .inl (congrArg Printing.lines (printStatementsOf_zero hbook true))
            | false => exact .inr ⟨typeName, dialect, b, rfl, rfl, hbook⟩
          · simp only [runCommand, printStatementsOf, hbook,
              printStatements_of_ne_zero (bookOf_eq_ok hbook) json hcount] at h
            cases h
  | count | list | get | remove | removeAll => exact .inl (lines_ofResult h)

/-- The arguments ask for the statements of a declared type over a number of keys; the texts are
taken from the book `b`. -/
def ListsFor (w : Workspace) (args : List String) (json : Bool) (count : UInt64)
    (b : StatementBook) : Prop :=
  ∃ path c typeName dialect,
    Invocation.read args = .ok ⟨path, json, .sql typeName dialect count⟩ ∧
      w.loadConfig path = .ok c ∧ bookOf c typeName dialect = .ok b

/-- The statements are to be listed over no keys, without JSON. -/
def ListsForNoKeys (w : Workspace) (args : List String) (b : StatementBook) : Prop :=
  ListsFor w args false 0 b

namespace Course

variable {args : List String} {q : RunResult × Workspace}

theorem unchanged (h : Course w args q) (hfailed : q.1.exitCode ≠ 0) (path : String) :
    q.2.databaseAt path = w.databaseAt path := by
  cases h with
  | stopped | unloaded => rfl
  | ran _ hload =>
      rw [Printing.exitCode_ne_zero] at hfailed
      exact databaseAt_runCommand (valid_of_loadConfig hload) hfailed path

theorem silent (h : Course w args q) (hfailed : q.1.exitCode ≠ 0) :
    q.1.stdout = "" ∨ ∃ b, ListsForNoKeys w args b := by
  cases h with
  | @stopped stop _ =>
      cases stop with
      | usage => exact .inl rfl
      | version | help => exact absurd rfl hfailed
  | unloaded => exact .inl rfl
  | @ran i c hread hload =>
      rw [Printing.exitCode_ne_zero] at hfailed
      rw [Printing.stdout_toResult]
      obtain ⟨path, json, command⟩ := i
      rcases lines_runCommand (valid_of_loadConfig hload) hfailed with hlines | hlists
      · exact .inl (by rw [Printing.text, hlines]; rfl)
      · obtain ⟨typeName, dialect, b, rfl, rfl, hbook⟩ := hlists
        exact .inr ⟨b, path, c, typeName, dialect, hread, hload, hbook⟩

end Course

end CommandLine

end RecordStore
