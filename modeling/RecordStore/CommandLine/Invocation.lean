import RecordStore.CommandLine.Arguments
import RecordStore.Number.Power

namespace RecordStore.CommandLine

/-!
# What a command line asks for

The options for every command stand before the name of the command; those of one command, and its
words, stand after it.
-/

inductive Command
  | types
  | sql (typeName : String) (dialect : Option String) (count : UInt64)
  | count (typeName : String)
  | list (typeName : String)
  | get (typeName : String) (ids : List String)
  | remove (typeName : String) (ids : List String)
  | removeAll (typeName : String)
  | checkConfig
deriving DecidableEq

structure Invocation where
  configPath : String
  json : Bool
  command : Command
deriving DecidableEq

def anyText (_ : String) : Bool :=
  true

/-- A natural number below 2⁶⁴, with or without a plus sign. -/
def countOf? (s : String) : Option UInt64 :=
  let digits := match s.toList with
    | '+' :: rest => rest
    | all => all
  if digits ≠ [] ∧ digits.all Char.isDigit then
    let n := Nat.ofDigitChars 10 digits 0
    if n < twoTo 64 then some (UInt64.ofNat n) else none
  else none

def helpOption : Opt :=
  ⟨"help", some 'h', .stop .help⟩

def defaultConfigPath : String := "objstore.yaml"

def outerGrammar : Grammar where
  options :=
    [⟨"config", some 'c', .valued (· ≠ "")⟩, ⟨"output-json", none, .switch⟩,
      ⟨"log-format", none, .valued anyText⟩, ⟨"verbosity", none, .valued anyText⟩,
      ⟨"version", some 'V', .stop .version⟩, helpOption]
  maxWords := none
  endsAtWord := true

def innerGrammar (maxWords : Option Nat) : Grammar :=
  ⟨[helpOption], maxWords, false⟩

def sqlGrammar : Grammar :=
  ⟨[⟨"dialect", none, .valued anyText⟩,
      ⟨"count", none, .valued fun s ↦ (countOf? s).isSome⟩, helpOption], some 1, false⟩

def wordsOf (maxWords : Option Nat) (args : List String) : Except Stop (List String) := do
  let (found, _) ← (innerGrammar maxWords).gather .empty args
  pure found.words

def noWords (command : Command) (args : List String) : Except Stop Command := do
  discard (wordsOf (some 0) args)
  pure command

def aboutType (make : String → Command) (args : List String) : Except Stop Command := do
  match ← wordsOf (some 1) args with
  | [typeName] => pure (make typeName)
  | _ => throw .usage

def aboutIds (make : String → List String → Command) (args : List String) : Except Stop Command := do
  match ← wordsOf none args with
  | typeName :: id :: ids => pure (make typeName (id :: ids))
  | _ => throw .usage

def readSql (args : List String) : Except Stop Command := do
  let (found, _) ← sqlGrammar.gather .empty args
  match found.words with
  | [typeName] =>
    pure (.sql typeName (found.values.lookup "dialect")
      ((found.values.lookup "count").bind countOf? |>.getD 1))
  | _ => throw .usage

def helpTopics : List String :=
  ["types", "sql", "count", "list", "get", "remove", "remove-all", "check-config", "help"]

/-- Help is given about everything or about one command. -/
def readHelp : List String → Except Stop Command
  | [] => .error .help
  | [name] => .error (if name ∈ helpTopics then .help else .usage)
  | _ => .error .usage

def Command.read (name : String) (args : List String) : Except Stop Command :=
  match name with
  | "types" => noWords .types args
  | "sql" => readSql args
  | "count" => aboutType .count args
  | "list" => aboutType .list args
  | "get" => aboutIds .get args
  | "remove" => aboutIds .remove args
  | "remove-all" => aboutType .removeAll args
  | "check-config" => noWords .checkConfig args
  | "help" => readHelp args
  | _ => .error .usage

def Invocation.read (args : List String) : Except Stop Invocation := do
  let (found, rest) ← outerGrammar.gather .empty args
  match found.words with
  | [name] =>
    let command ← Command.read name rest
    pure ⟨found.value "config" defaultConfigPath, found.has "output-json", command⟩
  | _ => throw .usage

end RecordStore.CommandLine
