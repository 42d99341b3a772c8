namespace RecordStore.CommandLine

/-!
# Arguments of a command line

A command line is a list of words and options. An option with a value takes it from the same
argument or from the next one; after `--` every argument is a word. Reading stops at the first fault
and at the first option that asks for the version or for help.
-/

/-- Why a command line asks for no work to be done. -/
inductive Stop
  | usage
  | version
  | help
deriving DecidableEq

inductive OptionKind
  | switch
  /-- Takes one value, which must be accepted. -/
  | valued (accepts : String → Bool)
  | stop (reason : Stop)

structure Opt where
  name : String
  letter : Option Char
  kind : OptionKind

/-- What a command line may hold: its options, how many words, and whether the first word ends it. -/
structure Grammar where
  options : List Opt
  maxWords : Option Nat
  endsAtWord : Bool

structure Gathered where
  values : List (String × String)
  words : List String
deriving DecidableEq

namespace Gathered

def empty : Gathered :=
  ⟨[], []⟩

/-- An option may be given once. -/
def addValue (g : Gathered) (name value : String) : Except Stop Gathered :=
  if (g.values.lookup name).isSome then .error .usage
  else .ok { g with values := (name, value) :: g.values }

def addWord (g : Gathered) (maxWords : Option Nat) (word : String) : Except Stop Gathered :=
  match maxWords with
  | some n =>
    if g.words.length < n then .ok { g with words := g.words ++ [word] } else .error .usage
  | none => .ok { g with words := g.words ++ [word] }

def addWords (g : Gathered) (maxWords : Option Nat) (words : List String) : Except Stop Gathered :=
  words.foldlM (fun g word ↦ g.addWord maxWords word) g

def has (g : Gathered) (name : String) : Bool :=
  (g.values.lookup name).isSome

def value (g : Gathered) (name default : String) : String :=
  (g.values.lookup name).getD default

end Gathered

inductive Argument
  | escape
  | long (name : String) (value : Option String)
  | short (letter : Char) (tail : List Char)
  | word (s : String)
deriving DecidableEq

def Argument.of (s : String) : Argument :=
  match s.toList with
  | ['-', '-'] => .escape
  | '-' :: '-' :: rest =>
    let name := rest.takeWhile (· != '=')
    let value := rest.drop name.length
    .long (String.ofList name)
      (if value = [] then none else some (String.ofList (value.drop 1)))
  | '-' :: letter :: tail => .short letter tail
  | _ => .word s

def Argument.isWord : Argument → Bool
  | word _ => true
  | _ => false

namespace Grammar

def long? (g : Grammar) (name : String) : Option Opt :=
  g.options.find? (·.name == name)

def short? (g : Grammar) (letter : Char) : Option Opt :=
  g.options.find? (·.letter == some letter)

/-- The value written in the same argument as the letter of its option. -/
def attached (o : Opt) (tail : List Char) : Option String :=
  match o.kind, tail with
  | .valued _, '=' :: rest => some (String.ofList rest)
  | .valued _, c :: rest => some (String.ofList (c :: rest))
  | _, _ => none

/-- The option that an argument names and the value attached to it. -/
def named? (g : Grammar) : Argument → Option (Opt × Option String)
  | .long name value => (g.long? name).map fun o ↦ (o, value)
  | .short letter tail => (g.short? letter).map fun o ↦ (o, attached o tail)
  | _ => none

def accept (done : Gathered) (o : Opt) (accepts : String → Bool) (value : String) :
    Except Stop Gathered :=
  if accepts value then done.addValue o.name value else .error .usage

/-- Reads arguments on top of what has been read; returns what is left after the first word if the
grammar ends there. -/
def gather (g : Grammar) (done : Gathered) : List String → Except Stop (Gathered × List String)
  | [] => .ok (done, [])
  | arg :: rest =>
    match Argument.of arg with
    | .word s => do
      let done ← done.addWord g.maxWords s
      if g.endsAtWord then pure (done, rest) else gather g done rest
    | .escape =>
      if g.endsAtWord then .error .usage
      else do
        let done ← done.addWords g.maxWords rest
        pure (done, [])
    | argument =>
      match g.named? argument with
      | none => .error .usage
      | some (o, value) =>
        match o.kind, value with
        | .stop reason, none => .error reason
        | .stop _, some _ => .error .usage
        | .switch, none => do gather g (← done.addValue o.name "") rest
        | .switch, some _ => .error .usage
        | .valued accepts, some v => do gather g (← accept done o accepts v) rest
        | .valued accepts, none =>
          match rest with
          | v :: rest =>
            if (Argument.of v).isWord then do gather g (← accept done o accepts v) rest
            else .error .usage
          | [] => .error .usage

end Grammar

end RecordStore.CommandLine
