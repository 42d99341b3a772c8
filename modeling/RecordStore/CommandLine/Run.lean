import RecordStore.CommandLine.Invocation
import RecordStore.Config.Yaml
import RecordStore.StatementBook
import RecordStore.Store.Connect
import RecordStore.Store.Read
import RecordStore.Store.Write

namespace RecordStore.CommandLine

/-!
# Running a command

A run reads a configuration from the files of a workspace, prints, and may change a database of the
workspace. Commands that only look at the configuration never open the database. What has been
printed before a failure stays printed.
-/

/-- What a run finds: files and databases at their paths, and the directories that there are besides
the one it works in. -/
structure Workspace where
  files : List (String × String)
  databases : List (String × Sqlite.Database)
  directories : List String

/-- What a run leaves behind: its exit code, what it printed, and the report of its failure. -/
structure RunResult where
  exitCode : Nat
  stdout : String
  report : Option String
deriving DecidableEq

structure Printing where
  lines : List String
  outcome : Except Error Unit

namespace Printing

def ofLines (lines : List String) : Printing :=
  ⟨lines, .ok ()⟩

def failed (e : Error) : Printing :=
  ⟨[], .error e⟩

def ofResult {α : Type} (lines : α → List String) : Except Error α → Printing
  | .ok a => ofLines (lines a)
  | .error e => failed e

def text (p : Printing) : String :=
  String.join (p.lines.map (· ++ "\n"))

def toResult (p : Printing) : RunResult :=
  match p.outcome with
  | .ok () => ⟨0, p.text, none⟩
  | .error e => ⟨e.exitCode, p.text, some e.report⟩

end Printing

def versionText : String := "objstore 0.1.0"

def Stop.toResult : Stop → RunResult
  | .usage => ⟨2, "", none⟩
  | .version => ⟨0, versionText ++ "\n", none⟩
  | .help => ⟨0, "", none⟩

/-- A path without steps that stay where they are. -/
def plainPath (path : String) : String :=
  String.ofList (Text.dropHeads ['.', '/'] path.toList)

namespace Workspace

def loadConfig (w : Workspace) (path : String) : Except Error Config :=
  match w.files.lookup (plainPath path) with
  | some text => Config.ofYaml text
  | none => .error (.io "No such file or directory (os error 2)")

/-- The path that a database is kept at, unless it names a directory or lies in none that there
is. -/
def databasePath? (w : Workspace) (path : String) : Option String :=
  let path := plainPath path
  let letters := path.toList.reverse
  let name := String.ofList (letters.takeWhile (· != '/')).reverse
  let directory := String.ofList ((letters.dropWhile (· != '/')).drop 1).reverse
  if name ∈ ["", ".", ".."] ∨ path ∈ w.directories then none
  else if '/' ∈ path.toList ∧ directory ∉ w.directories then none
  else some path

/-- The connection to the database at a URL. Without a path it is a private one. -/
def connect (w : Workspace) (url : String) : Except Error Sqlite.Connection :=
  match Sqlite.Location.ofUrl url with
  | .error fault => .error (.database fault)
  | .ok location =>
    if location.isPrivate ∨ location.path = "" then .ok (.opened [])
    else
      match w.databasePath? location.path with
      | some path => .ok (.opened ((w.databases.lookup path).getD []))
      | none => .error (.database (.returned 14 "unable to open database file"))

/-- The workspace after what has been committed to the database at a URL. -/
def save (w : Workspace) (url : String) (c : Sqlite.Connection) : Workspace :=
  match Sqlite.Location.ofUrl url with
  | .error _ => w
  | .ok location =>
    if location.isPrivate ∨ location.path = "" then w
    else
      match w.databasePath? location.path with
      | some path =>
        { w with databases := (path, c.committed) :: w.databases.filter (·.1 ≠ path) }
      | none => w

/-- Does something with the store of a configuration. -/
def withStore {α : Type} (w : Workspace) (c : Config) (act : Store → Action α) :
    Except Error α × Workspace :=
  match w.connect c.database.url, Store.ofConfig c with
  | .error e, _ => (.error e, w)
  | .ok _, .error e => (.error e, w)
  | .ok connection, .ok s =>
    let o := (act s).run.run Surface.sqlite .sqlite s.registry connection
    (o.result, w.save c.database.url o.state)

end Workspace

def accessorLines (l : Layout) : List String :=
  l.fields.zipIdx.map fun ((name, type), index) ↦ s!"  [{index}] {name}: {type.name}"

def layoutLines (l : Layout) : List String :=
  s!"{l.typeName} (key: {l.keyColumn} {l.keyType.tag})" :: accessorLines l

def fieldJson (field : (String × FieldType) × Nat) : Json :=
  .ofMembers [("index", .int field.2), ("name", .text field.1.1), ("type", .text field.1.2.name)]

def layoutJson (l : Layout) : Json :=
  .ofMembers [("name", .text l.typeName), ("key_column", .text l.keyColumn),
    ("key_type", .text l.keyType.name), ("fields", .array (l.fields.zipIdx.map fieldJson))]

/-- The types in the order of their declaration, up to the first that does not resolve. -/
def printTypes (json : Bool) (c : Config) : Printing :=
  let rec go (done : List Layout) : List RecordType → List Layout × Except Error Unit
    | [] => (done.reverse, .ok ())
    | t :: rest =>
      match Layout.resolve t with
      | .ok l => go (l :: done) rest
      | .error fault => (done.reverse, .error (.illegalArgument fault))
  let (layouts, outcome) := go [] c.types
  if json then
    match outcome with
    | .ok () => .ofLines [(Json.array (layouts.map layoutJson)).pretty]
    | .error e => .failed e
  else ⟨layouts.flatMap layoutLines, outcome⟩

def spellAll (b : StatementBook) (count : UInt64) :
    List Statement → List (String × String) × Except Error Unit
  | [] => ([], .ok ())
  | s :: rest =>
    match b.request s count with
    | (.ok (some sql), b) =>
      let (later, outcome) := spellAll b count rest
      ((s.name, sql) :: later, outcome)
    | (.ok none, b) => spellAll b count rest
    | (.error fault, _) => ([], .error (.illegalArgument fault))

def printStatements (json : Bool) (count : UInt64) (b : StatementBook) : Printing :=
  let (texts, outcome) := spellAll b count Statement.all
  if json then
    match outcome with
    | .ok () => .ofLines [(Json.ofMembers (texts.map fun (name, sql) ↦ (name, .text sql))).pretty]
    | .error e => .failed e
  else ⟨texts.map fun (name, sql) ↦ name ++ ": " ++ sql, outcome⟩

/-- The statement book of a declared type; without a dialect that of the database counts. -/
def bookOf (c : Config) (typeName : String) (dialect : Option String) :
    Except Error StatementBook := do
  match c.type? typeName with
  | none => throw (.illegalArgument (.undeclaredType typeName))
  | some t =>
    match Dialect.ofDatabase (dialect.getD c.database.type) with
    | .error fault => throw (.config fault)
    | .ok d =>
      let l ← Error.ofArgument (Layout.resolve t)
      pure (.empty l d)

def printStatementsOf (json : Bool) (c : Config) (typeName : String) (dialect : Option String)
    (count : UInt64) : Printing :=
  match bookOf c typeName dialect with
  | .ok b => printStatements json count b
  | .error e => .failed e

def printSummary (json : Bool) (c : Config) : Printing :=
  if json then
    .ofLines [(Json.ofMembers [("database", .text c.database.redactedUrl),
      ("database_type", .text c.database.type), ("max_in_list", .int c.storage.maxInList),
      ("types", .array (c.types.map fun t ↦ .text t.name))]).pretty]
  else
    .ofLines ["Configuration OK:", "  Database: " ++ c.database.redactedUrl,
      s!"  Types: {c.types.length}"]

def countLines (json : Bool) (typeName : String) (count : Nat) : List String :=
  if json then [(Json.ofMembers [("type", .text typeName), ("count", .int count)]).compact]
  else [s!"{typeName}: {count}"]

def recordLines (json : Bool) (records : List Record) : List String :=
  if json then [(Json.array (records.map Record.toJson)).pretty]
  else records.map fun r ↦ r.toJson.compact

def removalLines (json : Bool) (typeName : String) (count : Nat) : List String :=
  if json then [(Json.ofMembers [("type", .text typeName), ("removed", .int count)]).compact]
  else [s!"Removed {count} {typeName} object(s)"]

def readIds (s : Store) (typeName operation : String) (ids : List String) : Action (List Key) := do
  let l ← s.require typeName operation
  Action.ofArgument (ids.mapM l.keyType.read)

def runCommand (w : Workspace) (json : Bool) (c : Config) : Command → Printing × Workspace
  | .types => (printTypes json c, w)
  | .sql typeName dialect count => (printStatementsOf json c typeName dialect count, w)
  | .checkConfig => (printSummary json c, w)
  | .count typeName =>
    let (result, w) := w.withStore c fun s ↦ s.getSize typeName
    (.ofResult (countLines json typeName) result, w)
  | .list typeName =>
    let (result, w) := w.withStore c fun s ↦ s.getAll typeName
    (.ofResult (recordLines json) result, w)
  | .get typeName ids =>
    let (result, w) := w.withStore c fun s ↦ do
      s.getSome typeName (← readIds s typeName "get_some" ids)
    (.ofResult (recordLines json) result, w)
  | .remove typeName ids =>
    let (result, w) := w.withStore c fun s ↦ do
      s.remove typeName (← readIds s typeName "remove" ids)
    (.ofResult (removalLines json typeName) result, w)
  | .removeAll typeName =>
    let (result, w) := w.withStore c fun s ↦ s.removeAll typeName
    (.ofResult (removalLines json typeName) result, w)

def runInvocation (w : Workspace) (i : Invocation) : RunResult × Workspace :=
  match w.loadConfig i.configPath with
  | .error e => ((Printing.failed e).toResult, w)
  | .ok c =>
    let (p, w) := runCommand w i.json c i.command
    (p.toResult, w)

def run (w : Workspace) (args : List String) : RunResult × Workspace :=
  match Invocation.read args with
  | .error stop => (stop.toResult, w)
  | .ok i => runInvocation w i

end RecordStore.CommandLine
