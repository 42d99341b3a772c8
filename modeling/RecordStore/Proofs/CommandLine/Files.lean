import RecordStore.Proofs.CommandLine.Failing
import RecordStore.Proofs.Sqlite.Reading

namespace RecordStore

open Store (Takes)

/-!
# Records that are kept in a file

The records of a type are kept in a table of a database of the workspace. A list prints all of them.
The commands that are given keys are carried out on the records that have them: the ones that are
asked for are printed, and the ones that are removed are missing from the table afterwards while all
the others stay.
-/

theorem KeyType.keyType_of_read {type : KeyType} {raw : String} {key : Key}
    (h : type.read raw = .ok key) : key.keyType = type := by
  cases type with
  | text =>
      cases h
      rfl
  | int | uuid =>
      simp only [read] at h
      split at h
      · cases h
        rfl
      · cases h

namespace CommandLine

/-- What is printed of records: one object a line, or one array of all objects. -/
def recordsText (json : Bool) (records : List Record) : String :=
  if json then (Json.array (records.map Record.toJson)).pretty ++ "\n"
  else String.join (records.map fun r ↦ r.toJson.compact ++ "\n")

/-- What is printed of a removal. -/
def removalText (json : Bool) (typeName : String) (count : Nat) : String :=
  if json then (Json.object [("removed", .int count), ("type", .text typeName)]).compact ++ "\n"
  else s!"Removed {count} {typeName} object(s)" ++ "\n"

theorem toResult_recordLines (json : Bool) (records : List Record) :
    (Printing.ofLines (recordLines json records)).toResult
      = ⟨0, recordsText json records, none⟩ := by
  cases json with
  | true => simp [Printing.toResult, Printing.ofLines, Printing.text, recordLines, recordsText]
  | false =>
      simp [Printing.toResult, Printing.ofLines, Printing.text, recordLines, recordsText,
        List.map_map, Function.comp_def]

theorem toResult_removalLines (json : Bool) (typeName : String) (count : Nat) :
    (Printing.ofLines (removalLines json typeName count)).toResult
      = ⟨0, removalText json typeName count, none⟩ := by
  cases json with
  | true =>
      have hmembers : Json.ofMembers [("type", .text typeName), ("removed", .int count)]
          = .object [("removed", .int count), ("type", .text typeName)] := by
        have hless : "removed" < "type" := by decide
        simp [Json.ofMembers, Ordered.ofList, Ordered.insert, hless]
      simp [Printing.toResult, Printing.ofLines, Printing.text, removalLines, removalText, hmembers]
  | false => simp [Printing.toResult, Printing.ofLines, Printing.text, removalLines, removalText]

namespace Workspace

/-- The workspace with a database in place of the one at a path. -/
def withDatabase (w : Workspace) (path : String) (d : Sqlite.Database) : Workspace :=
  { w with databases := (path, d) :: w.databases.filter (·.1 ≠ path) }

/-- Both workspaces have the same files and directories, and the same databases at all paths but the
given ones. -/
structure SameBut (paths : List String) (w w' : Workspace) : Prop where
  files : w'.files = w.files
  directories : w'.directories = w.directories
  databases : ∀ path, path ∉ paths → w'.databaseAt path = w.databaseAt path

/-- The URL is that of the database at a path. -/
def Locates (w : Workspace) (url path : String) : Prop :=
  ∃ location, Sqlite.Location.ofUrl url = .ok location ∧
    ¬ (location.isPrivate = true ∨ location.path = "") ∧ w.databasePath? location.path = some path

/-- The records that the configuration keeps under a type: it finds them in a table of the database
at a path, whose rows are read as the records. -/
structure Keeps (w : Workspace) (configPath : String) (c : Config) (typeName path : String)
    (l : Layout) (t : Sqlite.Table) (found : List Record) : Prop where
  load : w.loadConfig configPath = .ok c
  declared : ∃ type, c.type? typeName = some type ∧ Layout.resolve type = .ok l
  located : w.Locates c.database.url path
  table : (w.databaseAt path).find l.table = .ok t
  found : t.ReadAs l found

section

variable {w : Workspace} {url path : String}

theorem databaseAt_withDatabase (w : Workspace) (path other : String) (d : Sqlite.Database) :
    (w.withDatabase path d).databaseAt other = if other = path then d else w.databaseAt other :=
  w.databaseAt_replace path other d

theorem sameBut_withDatabase (w : Workspace) (path : String) (d : Sqlite.Database) :
    SameBut [path] w (w.withDatabase path d) := by
  refine ⟨rfl, rfl, fun other hother ↦ ?_⟩
  rw [databaseAt_withDatabase, if_neg (List.mem_singleton.not.mp hother)]

theorem sameBut_self (w : Workspace) (path : String) :
    SameBut [] w (w.withDatabase path (w.databaseAt path)) := by
  refine ⟨rfl, rfl, fun other _ ↦ ?_⟩
  rw [databaseAt_withDatabase]
  split
  · next h => rw [h]
  · rfl

theorem SameBut.databasePath? {w' : Workspace} {paths : List String} (h : SameBut paths w w')
    (path : String) : w'.databasePath? path = w.databasePath? path := by
  unfold Workspace.databasePath?
  rw [h.directories]

theorem Locates.connect (h : w.Locates url path) :
    w.connect url = .ok (.opened (w.databaseAt path)) := by
  obtain ⟨location, hlocation, hprivate, hpath⟩ := h
  simp only [Workspace.connect, hlocation, if_neg hprivate, hpath]
  rfl

theorem Locates.save (h : w.Locates url path) (c : Sqlite.Connection) :
    w.save url c = w.withDatabase path c.committed := by
  obtain ⟨location, hlocation, hprivate, hpath⟩ := h
  simp only [Workspace.save, hlocation, if_neg hprivate, hpath]
  rfl

/-- Only the databases at paths hold anything when they are opened. -/
theorem exists_locates {connection : Sqlite.Connection} (h : w.connect url = .ok connection)
    (hsome : connection.committed ≠ []) : ∃ path, w.Locates url path := by
  unfold connect at h
  split at h
  · cases h
  · next location hlocation =>
    split at h
    · cases h
      exact absurd rfl hsome
    · next hprivate =>
      split at h
      · next path hpath => exact ⟨path, location, hlocation, hprivate, hpath⟩
      · cases h

end

namespace Keeps

variable {w : Workspace} {configPath typeName path : String} {c : Config} {l : Layout}
  {t : Sqlite.Table} {found : List Record} (h : w.Keeps configPath c typeName path l t found)

include h

/-- Other records in the table of the database do not change where it is found. -/
theorem of_sameBut {w' : Workspace} {paths : List String} (hsame : SameBut paths w w')
    {t' : Sqlite.Table} {found' : List Record} (ht : (w'.databaseAt path).find l.table = .ok t')
    (hfound : t'.ReadAs l found') : w'.Keeps configPath c typeName path l t' found' := by
  obtain ⟨location, hlocation, hprivate, hpath⟩ := h.located
  refine ⟨?_, h.declared, ⟨location, hlocation, hprivate, ?_⟩, ht, hfound⟩
  · rw [loadConfig, hsame.files]
    exact h.load
  · rw [hsame.databasePath?]
    exact hpath

theorem of_same {w' : Workspace} (hsame : SameBut [] w w') :
    w'.Keeps configPath c typeName path l t found := by
  refine h.of_sameBut hsame ?_ h.found
  rw [hsame.databases path List.not_mem_nil]
  exact h.table

theorem sound : l.Sound := by
  obtain ⟨type, -, hresolve⟩ := h.declared
  exact Layout.sound_of_resolve hresolve

theorem exists_store : ∃ store, Store.ofConfig c = .ok store ∧ store.registry.Reachable ∧
    store.registry.get? typeName = some l ∧
    max store.options.maxInList 1 = max c.storage.maxInList 1 := by
  have hvalid := valid_of_loadConfig h.load
  obtain ⟨store, hstore, hremembers⟩ := Store.exists_ofConfig hvalid
  obtain ⟨type, htype, hresolve⟩ := h.declared
  have hname : type.name = typeName := by simpa using List.find?_some htype
  refine ⟨store, hstore, hremembers.reachable, ?_, ?_⟩
  · rw [hremembers.get?, ← hname]
    exact Registry.firstValid_of_nodup hvalid.names (List.mem_of_find?_eq_some htype) hresolve
  · obtain ⟨registry, -, hmade⟩ := bind_eq_ok.mp hstore
    cases hmade
    simp [StoreOptions.ofLimit]

/-- What an action on the store ensures on the database at the path. -/
theorem withStore {α : Type} {act : Store → Action α}
    {Q : Except Error α → Sqlite.Connection → Prop}
    (hwithin : ∀ store : Store, store.registry.Reachable → (act store).Within store.registry)
    (hact : ∀ store : Store, store.registry.get? typeName = some l →
      max store.options.maxInList 1 = max c.storage.maxInList 1 →
      (act store).Ensures Surface.sqlite .sqlite (.opened (w.databaseAt path))
        fun _ outcome connection ↦ Q outcome connection) :
    ∃ connection, Q (w.withStore c act).1 connection ∧
      (w.withStore c act).2 = w.withDatabase path connection.committed := by
  obtain ⟨store, hstore, hreachable, hl, hlimit⟩ := h.exists_store
  obtain ⟨⟨-, -, -, hensured⟩, -⟩ :=
    (hact store hl hlimit).run hreachable (hwithin store hreachable)
  unfold Workspace.withStore
  rw [h.located.connect, hstore]
  exact ⟨_, hensured, h.located.save _⟩

end Keeps

/-- An action on the store that succeeds has been carried out on the database that was opened. -/
theorem exists_of_withStore {α : Type} {w : Workspace} {c : Config} {act : Store → Action α} {a : α}
    (h : (w.withStore c act).1 = .ok a) : ∃ connection store,
      w.connect c.database.url = .ok connection ∧ Store.ofConfig c = .ok store ∧
        ((act store).run.run Surface.sqlite .sqlite store.registry connection).result = .ok a := by
  unfold withStore at h
  cases hopen : w.connect c.database.url with
  | error e =>
      rw [hopen] at h
      cases h
  | ok connection =>
      cases hstore : Store.ofConfig c with
      | error e =>
          rw [hopen, hstore] at h
          cases h
      | ok store =>
          rw [hopen, hstore] at h
          exact ⟨connection, store, rfl, rfl, h⟩

end Workspace

/-! ## Runs -/

open Workspace (Keeps)

variable {w : Workspace} {configPath typeName path : String} {c : Config} {l : Layout}
  {t : Sqlite.Table} {found : List Record} {json : Bool} {args : List String}

/-- What the commands that are given identities do with the store. -/
def getNamed (typeName : String) (ids : List String) (s : Store) : Action (List Record) := do
  s.getSome typeName (← readIds s typeName "get_some" ids)

def removeNamed (typeName : String) (ids : List String) (s : Store) : Action Nat := do
  s.remove typeName (← readIds s typeName "remove" ids)

section

variable {store : Store} {ids : List String} {keys : List Key}
  (hl : store.registry.get? typeName = some l) (hread : ids.mapM l.keyType.read = .ok keys)

include hl hread

theorem readIds_eq (operation : String) : readIds store typeName operation ids = pure keys := by
  unfold readIds Store.require Registry.require
  rw [hl, Action.ofArgument_ok_bind, hread]
  rfl

theorem getNamed_eq : getNamed typeName ids store = store.getSome typeName keys := by
  rw [getNamed, readIds_eq hl hread, pure_bind]

theorem removeNamed_eq : removeNamed typeName ids store = store.remove typeName keys := by
  rw [removeNamed, readIds_eq hl hread, pure_bind]

end

theorem within_getNamed {store : Store} (h : store.registry.Reachable) (ids : List String) :
    (getNamed typeName ids store).Within store.registry :=
  (within_readIds _ ids).bind fun keys ↦ Store.within_getSome h typeName keys

theorem within_removeNamed {store : Store} (h : store.registry.Reachable) (ids : List String) :
    (removeNamed typeName ids store).Within store.registry :=
  (within_readIds _ ids).bind fun keys ↦ Store.within_remove h typeName keys

/-- All records of a type can only be read if it is registered and has a table. -/
theorem ensures_found (store : Store) (connection : Sqlite.Connection) :
    (store.getAll typeName).Ensures Surface.sqlite .sqlite connection fun _ outcome _ ↦
      ∀ found, outcome = .ok found → ∃ l t, store.registry.get? typeName = some l ∧
        connection.committed.find l.table = .ok t ∧ t.ReadAs l found := by
  cases hl : store.registry.get? typeName with
  | some l =>
      refine (Sqlite.ensures_getAll_sqlite connection hl).mono ?_
      rintro _ outcome _ ⟨hfound, -⟩ found houtcome
      obtain ⟨t, ht, hreads⟩ := hfound found houtcome
      exact ⟨l, t, rfl, ht, hreads⟩
  | none =>
      rw [Store.getAll_eq]
      refine Store.ensures_taking (fun l htakes ↦ absurd (hl ▸ htakes.registered) nofun) ?_
      rintro - fault found ⟨⟩

theorem withStore_of_exitCode
    (hread : Invocation.read args = .ok ⟨configPath, json, .list typeName⟩)
    (hexit : (run w args).1.exitCode = 0) : ∃ c found, w.loadConfig configPath = .ok c ∧
      (w.withStore c fun store ↦ store.getAll typeName).1 = .ok found := by
  cases hload : w.loadConfig configPath with
  | error e =>
      simp only [run, hread, runInvocation, hload] at hexit
      exact absurd hexit ((Printing.exitCode_ne_zero _).mpr rfl)
  | ok c =>
      rw [run_of_loadConfig hread hload] at hexit
      cases hresult : (w.withStore c fun store ↦ store.getAll typeName).1 with
      | error e =>
          simp only [runCommand, hresult] at hexit
          exact absurd hexit ((Printing.exitCode_ne_zero _).mpr rfl)
      | ok found => exact ⟨c, found, rfl, hresult⟩

/-- A list that succeeds has found records in a file. -/
theorem exists_keeps (hread : Invocation.read args = .ok ⟨configPath, json, .list typeName⟩)
    (hexit : (run w args).1.exitCode = 0) :
    ∃ c path l t found, w.Keeps configPath c typeName path l t found := by
  obtain ⟨c, found, hload, hlisted⟩ := withStore_of_exitCode hread hexit
  obtain ⟨connection, store, hopen, hstore, hresult⟩ := Workspace.exists_of_withStore hlisted
  have hvalid := valid_of_loadConfig hload
  obtain ⟨_, hmade, hremembers⟩ := Store.exists_ofConfig hvalid
  obtain rfl := Except.ok.inj (hmade.symm.trans hstore)
  obtain ⟨⟨-, -, -, hfound⟩, -⟩ := (ensures_found _ connection).run hremembers.reachable
    (Store.within_getAll hremembers.reachable typeName)
  obtain ⟨l, t, hl, ht, hreads⟩ := hfound found hresult
  rw [hremembers.get?] at hl
  obtain ⟨type, htype, rfl, hresolve⟩ := Registry.exists_of_firstValid hl
  have hsome : connection.committed ≠ [] := by
    intro hnone
    rw [hnone] at ht
    cases ht
  obtain ⟨path, hlocates⟩ := Workspace.exists_locates hopen hsome
  obtain rfl := Except.ok.inj (hlocates.connect.symm.trans hopen)
  exact ⟨c, path, l, t, found, hload, ⟨type, Config.type?_of_valid hvalid htype, hresolve⟩,
    hlocates, ht, hreads⟩

/-- The run prints the records, in some order, and changes nothing. -/
structure Prints (w : Workspace) (args : List String) (json : Bool) (records : List Record) :
    Prop where
  result : ∃ printed, printed.Perm records ∧
    (run w args).1 = ⟨0, recordsText json printed, none⟩
  same : w.SameBut [] (run w args).2

/-- The run removes the first records from the table and prints how many they are. Nothing but rows
of this table is changed, and the second records stay. -/
structure Removes (w : Workspace) (args : List String) (json : Bool) (configPath : String)
    (c : Config) (typeName path : String) (l : Layout) (t : Sqlite.Table)
    (gone left : List Record) : Prop where
  result : (run w args).1 = ⟨0, removalText json typeName gone.length, none⟩
  same : w.SameBut [path] (run w args).2
  table : ∃ t' : Sqlite.Table, t'.name = t.name ∧ t'.columns = t.columns ∧
    t'.rows.Sublist t.rows ∧ (run w args).2.databaseAt path = (w.databaseAt path).replace t' ∧
    (run w args).2.Keeps configPath c typeName path l t' left

section

variable (h : w.Keeps configPath c typeName path l t found)

include h

/-- A list prints the records and changes nothing. -/
theorem run_list (hread : Invocation.read args = .ok ⟨configPath, json, .list typeName⟩) :
    Prints w args json found := by
  obtain ⟨connection, ⟨-, hprints⟩, hafter⟩ := h.withStore
    (fun store hstore ↦ Store.within_getAll hstore typeName)
    fun store hl _ ↦ Sqlite.ensures_getAll_sqlite _ hl
  obtain ⟨rfl, hfound⟩ := hprints t h.table
  obtain ⟨printed, hresult, hperm⟩ := hfound found h.found
  have hrun := run_of_loadConfig hread h.load
  simp only [runCommand, hresult, hafter] at hrun
  constructor
  · rw [hrun]
    exact ⟨printed, hperm, toResult_recordLines json printed⟩
  · rw [hrun]
    exact w.sameBut_self path

variable {ids : List String} {keys : List Key} (hids : ids.mapM l.keyType.read = .ok keys)
  (hkeys : keys ≠ [])

include hids

omit h in
theorem keyType_of_read : ∀ k ∈ keys, k.keyType = l.keyType := by
  intro k hk
  obtain ⟨id, -, hid⟩ := exists_of_forall₂ (forall₂_of_mapM hids) hk
  exact KeyType.keyType_of_read hid

omit h in
theorem takes_of_read {store : Store} (hl : store.registry.get? typeName = some l) :
    Takes store.registry.get? l typeName keys :=
  ⟨hl, keyType_of_read hids⟩

/-- More identities than a statement has places for are not removed. -/
theorem run_remove_of_many (hmany : Sqlite.Refusal.maxPlaces < keys.length)
    (hread : Invocation.read args = .ok ⟨configPath, json, .remove typeName ids⟩) :
    (run w args).1.exitCode = 4 ∧ w.SameBut [] (run w args).2 := by
  have hact : ∀ store : Store, store.registry.get? typeName = some l →
      max store.options.maxInList 1 = max c.storage.maxInList 1 →
      (removeNamed typeName ids store).Ensures Surface.sqlite .sqlite (.opened (w.databaseAt path))
        fun _ outcome connection ↦ (∃ e, outcome = .error e ∧ e.exitCode = 4) ∧
          connection.committed = w.databaseAt path := by
    intro store hl _
    rw [removeNamed_eq hl hids]
    exact Sqlite.ensures_remove_of_many (takes_of_read hids hl) hmany
  obtain ⟨connection, ⟨⟨e, hresult, hcode⟩, hsame⟩, hafter⟩ :=
    h.withStore (fun store hstore ↦ within_removeNamed hstore ids) hact
  have hrun : run w args = ((Printing.ofResult (removalLines json typeName)
      (w.withStore c (removeNamed typeName ids)).1).toResult,
      (w.withStore c (removeNamed typeName ids)).2) := run_of_loadConfig hread h.load
  rw [hrun, hresult, hafter, hsame]
  exact ⟨hcode, w.sameBut_self path⟩

variable (hstores : t.StoresKeys l)

include hkeys hstores

/-- Distinct identities have the records printed that have them, and nothing is changed. -/
theorem run_get (hnodup : keys.Nodup)
    (hfits : min (max c.storage.maxInList 1) keys.length ≤ Sqlite.Refusal.maxPlaces)
    (hread : Invocation.read args = .ok ⟨configPath, json, .get typeName ids⟩) :
    Prints w args json (found.filter fun r ↦ r.key ∈ keys) := by
  have hact : ∀ store : Store, store.registry.get? typeName = some l →
      max store.options.maxInList 1 = max c.storage.maxInList 1 →
      (getNamed typeName ids store).Ensures Surface.sqlite .sqlite (.opened (w.databaseAt path))
        fun _ outcome connection ↦ connection = .opened (w.databaseAt path) ∧ ∃ printed,
          outcome = .ok printed ∧ printed.Perm (found.filter fun r ↦ r.key ∈ keys) := by
    intro store hl hlimit
    rw [getNamed_eq hl hids]
    exact Sqlite.ensures_getSome_sqlite h.table h.found hstores (takes_of_read hids hl) hkeys hnodup
      (hlimit.symm ▸ hfits)
  obtain ⟨connection, ⟨rfl, printed, hresult, hperm⟩, hafter⟩ :=
    h.withStore (fun store hstore ↦ within_getNamed hstore ids) hact
  have hrun : run w args = ((Printing.ofResult (recordLines json)
      (w.withStore c (getNamed typeName ids)).1).toResult,
      (w.withStore c (getNamed typeName ids)).2) := run_of_loadConfig hread h.load
  rw [hresult, hafter] at hrun
  constructor
  · rw [hrun]
    exact ⟨printed, hperm, toResult_recordLines json printed⟩
  · rw [hrun]
    exact w.sameBut_self path

/-- The records that have one of the identities are missing from the table afterwards, and all the
others stay. -/
theorem run_remove (hfits : keys.length ≤ Sqlite.Refusal.maxPlaces)
    (hread : Invocation.read args = .ok ⟨configPath, json, .remove typeName ids⟩) :
    Removes w args json configPath c typeName path l t (found.filter fun r ↦ r.key ∈ keys)
      (found.filter fun r ↦ r.key ∉ keys) := by
  have hact : ∀ store : Store, store.registry.get? typeName = some l →
      max store.options.maxInList 1 = max c.storage.maxInList 1 →
      (removeNamed typeName ids store).Ensures Surface.sqlite .sqlite (.opened (w.databaseAt path))
        fun _ outcome connection ↦ outcome = .ok (found.filter fun r ↦ r.key ∈ keys).length ∧
          connection.committed = (w.databaseAt path).replace (t.delete (t.isAmong l keys)).1 := by
    intro store hl _
    rw [removeNamed_eq hl hids]
    exact Sqlite.ensures_remove_sqlite h.table h.found hstores (takes_of_read hids hl) hkeys hfits
  obtain ⟨connection, ⟨hresult, hcommitted⟩, hafter⟩ :=
    h.withStore (fun store hstore ↦ within_removeNamed hstore ids) hact
  have hrun : run w args = ((Printing.ofResult (removalLines json typeName)
      (w.withStore c (removeNamed typeName ids)).1).toResult,
      (w.withStore c (removeNamed typeName ids)).2) := run_of_loadConfig hread h.load
  rw [hresult, hafter, hcommitted] at hrun
  obtain ⟨-, hleft⟩ := h.found.delete hstores (keyType_of_read hids)
  have hshape : (t.delete (t.isAmong l keys)).1.name = t.name ∧
      (t.delete (t.isAmong l keys)).1.columns = t.columns ∧
      (t.delete (t.isAmong l keys)).1.rows.Sublist t.rows := by
    rw [Sqlite.Table.delete_eq]
    exact ⟨rfl, rfl, List.filter_sublist⟩
  generalize (t.delete (t.isAmong l keys)).1 = t' at hrun hleft hshape
  obtain ⟨hname, hcolumns, hrows⟩ := hshape
  have hsame := w.sameBut_withDatabase path ((w.databaseAt path).replace t')
  have hdatabase : (w.withDatabase path ((w.databaseAt path).replace t')).databaseAt path
      = (w.databaseAt path).replace t' := by
    rw [w.databaseAt_withDatabase, if_pos rfl]
  constructor
  · rw [hrun]
    exact toResult_removalLines json typeName _
  · rw [hrun]
    exact hsame
  · rw [hrun]
    refine ⟨t', hname, hcolumns, hrows, hdatabase, h.of_sameBut hsame ?_ hleft⟩
    rw [hdatabase]
    exact Sqlite.Database.find_replace h.table hname

end

end CommandLine

end RecordStore
