import RecordStore.Number.Hex
import RecordStore.Sqlite.Connection
import RecordStore.Text.Quoted

namespace RecordStore.Sqlite

open Text (cutAt? dropHeads quoted)

/-!
# Where a database lives

The URL of a database is a path after `sqlite:` or `sqlite://`, with parameters after a question
mark. The path `:memory:` and the parameter `mode=memory` ask for a private database that lives as
long as its connection.
-/

structure Location where
  path : String
  isPrivate : Bool
deriving DecidableEq

/-- The bytes of a text in which `%` and two hexadecimal digits stand for a byte. -/
def percentBytes : List Char → List UInt8
  | [] => []
  | '%' :: a :: b :: rest =>
    match hexValue? a, hexValue? b with
    | some high, some low => UInt8.ofNat (16 * high + low) :: percentBytes rest
    | _, _ => '%'.toNat.toUInt8 :: percentBytes (a :: b :: rest)
  | c :: rest => (String.singleton c).toUTF8.toList ++ percentBytes rest

def percentDecode? (s : List Char) : Option String :=
  String.fromUTF8? ⟨(percentBytes s).toArray⟩

/-- A name or value of a parameter, in which `+` stands for a blank. -/
def formDecode (s : List Char) : String :=
  (percentDecode? (s.map fun c ↦ if c == '+' then ' ' else c)).getD (String.ofList s)

def parameters (s : List Char) : List (String × String) :=
  let pieces := (s.splitOn '&').filter (· ≠ [])
  pieces.map fun piece ↦
    (formDecode (piece.takeWhile (· != '=')), formDecode ((piece.dropWhile (· != '=')).drop 1))

/-- The values that a parameter can have, if they are limited. -/
def knownValues : List (String × List String) :=
  [("mode", ["ro", "rw", "rwc", "memory"]), ("cache", ["private", "shared"]),
    ("immutable", ["true", "1", "false", "0"])]

def checkParameter (name value : String) : Except DatabaseFault Unit :=
  match knownValues.lookup name with
  | some known =>
    if value ∈ known then .ok ()
    else .error (.configuration ("unknown value " ++ quoted value ++ " for `" ++ name ++ "`"))
  | none =>
    if name = "vfs" then .ok ()
    else
      .error (.configuration ("unknown query parameter `" ++ name
        ++ "` while parsing connection URL"))

def checkParameters : List (String × String) → Except DatabaseFault Unit
  | [] => .ok ()
  | (name, value) :: rest => do
    checkParameter name value
    checkParameters rest

def Location.ofUrl (url : String) : Except DatabaseFault Location :=
  let body := dropHeads "sqlite:".toList (dropHeads "sqlite://".toList url.toList)
  let path := body.takeWhile (· != '?')
  match percentDecode? path with
  | none => .error (.configuration "invalid utf-8 sequence in the path")
  | some decoded => do
    let given := parameters ((body.dropWhile (· != '?')).drop 1)
    checkParameters given
    pure ⟨decoded, decoded == ":memory:" || given.contains ("mode", "memory")⟩

def Connection.ofUrl (url : String) : Except Error Connection :=
  match Location.ofUrl url with
  | .ok _ => .ok (.opened [])
  | .error fault => .error (.database fault)

end RecordStore.Sqlite
