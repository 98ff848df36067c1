import VaultModels.Command.KindName
import VaultModels.Settings.File

/-!
# Arguments

The command line of the program. Arguments are read from left to right, and the first one that asks
for help or the version, or that does not fit, decides. Whether arguments go together is looked at
last.
-/
namespace VaultModels.Command

open Code Schema

/-- What a switch takes. -/
inductive Takes where
  | nothing
  /-- A path, which is not empty. -/
  | path
  | text
  | oneOf (names : List String)
  | kind
  deriving DecidableEq, Repr

def Takes.accepts : Takes → String → Bool
  | .nothing, _ => false
  | .path, value => value != ""
  | .text, _ => true
  | .oneOf names, value => names.contains value
  | .kind, value => (kind? value).isSome

structure Switch where
  long : String
  short : Option Char := none
  takes : Takes := .nothing
  deriving DecidableEq, Repr

inductive Misuse where
  | unknownArgument (argument : String)
  | missingValue (switch : String)
  | unneededValue (switch : String)
  | invalidValue (switch value : String)
  | repeated (switch : String)
  | excluded (switch other : String)
  | missing (what : String)
  deriving DecidableEq, Repr

def Misuse.message : Misuse → String
  | .unknownArgument argument => "unexpected argument '" ++ argument ++ "'"
  | .missingValue switch => "'--" ++ switch ++ "' takes a value"
  | .unneededValue switch => "'--" ++ switch ++ "' takes no value"
  | .invalidValue switch value => "invalid value '" ++ value ++ "' for '--" ++ switch ++ "'"
  | .repeated switch => "'--" ++ switch ++ "' is given more than once"
  | .excluded switch other => "'--" ++ switch ++ "' does not go with '--" ++ other ++ "'"
  | .missing what => what ++ " is missing"

/-- Why a command line does not lead to a command. -/
inductive Stop where
  | help
  | version
  | misuse (misuse : Misuse)
  deriving DecidableEq, Repr

/-- Arguments read so far. -/
structure Given where
  /-- Switches in their long form, with their values. -/
  switches : List (String × String) := []
  /-- Arguments that belong to no switch. -/
  plain : List String := []
  deriving DecidableEq, Repr

namespace Given

def has (given : Given) (long : String) : Bool := (given.switches.lookup long).isSome

def value? (given : Given) (long : String) : Option String := given.switches.lookup long

def help : Switch := ⟨"help", some 'h', .nothing⟩

def version : Switch := ⟨"version", some 'V', .nothing⟩

def verbose : Switch := ⟨"verbose", some 'v', .nothing⟩

def add (given : Given) (switch : Switch) (value : String) : Except Stop Given :=
  if given.has switch.long then .error (.misuse (.repeated switch.long))
  else .ok { given with switches := given.switches ++ [(switch.long, value)] }

/-- A switch without a value. -/
def addFlag (given : Given) (switch : Switch) : Except Stop Given :=
  if switch = help then .error .help
  else if switch = version then .error .version
  else given.add switch ""

def addValue (given : Given) (switch : Switch) (value : String) : Except Stop Given :=
  if switch.takes.accepts value then given.add switch value
  else .error (.misuse (.invalidValue switch.long value))

def addPlain (given : Given) (places : Nat) (argument : String) : Except Stop Given :=
  if given.plain.length < places then .ok { given with plain := given.plain ++ [argument] }
  else .error (.misuse (.unknownArgument argument))

def addAllPlain (places : Nat) : List String → Given → Except Stop Given
  | [], given => .ok given
  | argument :: rest, given => do addAllPlain places rest (← given.addPlain places argument)

/-- The name of a long switch, and the value behind `=`. -/
def splitLong (cs : List Char) : String × Option String :=
  let name := String.ofList (cs.takeWhile (· != '='))
  match cs.dropWhile (· != '=') with
  | [] => (name, none)
  | _ :: value => (name, some (String.ofList value))

/-- A long switch; the switch itself is given back if its value is still to come. -/
def takeLong (switches : List Switch) (cs : List Char) (given : Given) :
    Except Stop (Option Switch × Given) :=
  let (name, value) := splitLong cs
  match switches.find? (·.long == name), value with
  | none, _ => .error (.misuse (.unknownArgument ("--" ++ name)))
  | some switch, none =>
    if switch.takes = .nothing then do .ok (none, ← given.addFlag switch)
    else .ok (some switch, given)
  | some switch, some value =>
    if switch.takes = .nothing then .error (.misuse (.unneededValue name))
    else do .ok (none, ← given.addValue switch value)

/-- Short switches in a row; one that takes a value takes all that follows it. -/
def takeShort (switches : List Switch) : List Char → Given →
    Except Stop (Option Switch × Given)
  | [], given => .ok (none, given)
  | c :: rest, given =>
    match switches.find? (·.short == some c) with
    | none => .error (.misuse (.unknownArgument (String.ofList ['-', c])))
    | some switch =>
      if switch.takes = .nothing then do takeShort switches rest (← given.addFlag switch)
      else match rest with
        | [] => .ok (some switch, given)
        | '=' :: value | value => do
          .ok (none, ← given.addValue switch (String.ofList value))

def isSwitch (argument : String) : Bool :=
  argument.toList.head? == some '-' && argument != "-" && argument != "--"

def take (switches : List Switch) (argument : String) (given : Given) :
    Except Stop (Option Switch × Given) :=
  match argument.toList with
  | '-' :: '-' :: long => takeLong switches long given
  | short => takeShort switches (short.drop 1) given

/-- The arguments of one command. -/
def read (switches : List Switch) (places : Nat) : List String → Given → Except Stop Given
  | [], given => .ok given
  | argument :: rest, given =>
    if argument = "--" then addAllPlain places rest given
    else if isSwitch argument then do
      match ← take switches argument given with
      | (none, given) => read switches places rest given
      | (some switch, given) =>
        match rest with
        | [] => .error (.misuse (.missingValue switch.long))
        | value :: rest =>
          if isSwitch value ∨ value = "--" then .error (.misuse (.missingValue switch.long))
          else do read switches places rest (← given.addValue switch value)
    else do read switches places rest (← given.addPlain places argument)

/-- The switches before the name of the command, that name, and what follows it. -/
def readName : List String → Given → Except Stop (Given × String × List String)
  | [], _ => .error (.misuse (.missing "command"))
  | argument :: rest, given =>
    if isSwitch argument then do
      let (_, given) ← take [help, version, verbose] argument given
      readName rest given
    else .ok (given, argument, rest)

end Given

inductive DiffMode where
  | serverAndLocal
  | serverAndModels
  | localAndModels
  deriving DecidableEq, Repr

def diffMode? : String → Option DiffMode
  | "server-and-local" => some .serverAndLocal
  | "server-and-models" => some .serverAndModels
  | "local-and-models" => some .localAndModels
  | _ => none

end Command

inductive Command where
  | generate (overrides : Settings.Overrides) (isDryRun : Bool) (settingsFile : Option Path)
  /-- Looks up one element, or one object. -/
  | resolve (kind : Option Schema.Kind) (isItem : Bool) (snapshot settingsFile : Option Path)
      (reference : String)
  | diff (mode : Command.DiffMode)
  /-- Writes a settings file. -/
  | init (output : Path) (overwrite : Bool)
  deriving DecidableEq, Repr

namespace Command

structure Invocation where
  isVerbose : Bool
  command : Command
  deriving DecidableEq, Repr

open Given in
def generateSwitches : List Switch :=
  [help, verbose, ⟨"project", some 'p', .path⟩, ⟨"namespace", some 'n', .text⟩,
   ⟨"snapshot", some 's', .path⟩, ⟨"partials", none, .nothing⟩, ⟨"force", some 'f', .nothing⟩,
   ⟨"dry-run", none, .nothing⟩, ⟨"line-ending", none, .oneOf ["lf", "crlf"]⟩,
   ⟨"indent", none, .oneOf ["spaces2", "spaces4", "tabs"]⟩, ⟨"config", some 'c', .path⟩]

open Given in
def resolveSwitches : List Switch :=
  [help, verbose, ⟨"kind", some 'k', .kind⟩, ⟨"item", none, .nothing⟩,
   ⟨"snapshot", some 's', .path⟩, ⟨"config", some 'c', .path⟩]

open Given in
def diffSwitches : List Switch :=
  [help, verbose,
   ⟨"mode", some 'm', .oneOf ["server-and-local", "server-and-models", "local-and-models"]⟩]

open Given in
def initSwitches : List Switch :=
  [help, verbose, ⟨"output", some 'o', .path⟩, ⟨"force", none, .nothing⟩]

/-- A flag on the command line sets an option; it never clears one. -/
def flag? (given : Given) (long : String) : Option Bool :=
  if given.has long then some true else none

def path? (given : Given) (long : String) : Option Path := (given.value? long).map Path.mk

def Given.generate (given : Given) : Command :=
  .generate
    { directory := path? given "project"
      rootNamespace := given.value? "namespace"
      snapshot := path? given "snapshot"
      partials := flag? given "partials"
      overwrite := flag? given "force"
      lineEnding := (given.value? "line-ending").bind Settings.lineEnding?
      indent := (given.value? "indent").bind Settings.indent? }
    (given.has "dry-run") (path? given "config")

def Given.resolve (given : Given) : Except Stop Command :=
  if given.has "item" ∧ given.has "kind" then .error (.misuse (.excluded "item" "kind"))
  else match given.plain with
    | reference :: _ =>
      .ok (.resolve ((given.value? "kind").bind kind?) (given.has "item")
        (path? given "snapshot") (path? given "config") reference)
    | [] => .error (.misuse (.missing "reference"))

def Given.diff (given : Given) : Command :=
  .diff (((given.value? "mode").bind diffMode?).getD .serverAndLocal)

def Given.init (given : Given) : Command :=
  .init ((path? given "output").getD Settings.fileName) (given.has "force")

def names : List String := ["generate", "resolve", "diff", "init", "help"]

/-- Help about the program or about one command. -/
def readHelp : List String → Stop
  | [] => .help
  | name :: rest =>
    if names.contains name then
      match rest with
      | [] => .help
      | next :: _ => .misuse (.unknownArgument next)
    else .misuse (.unknownArgument name)

def ofArguments (arguments : List String) : Except Stop Invocation := do
  let (before, name, rest) ← Given.readName arguments {}
  let finish (given : Given) (command : Command) : Invocation :=
    ⟨before.has "verbose" || given.has "verbose", command⟩
  match name with
  | "generate" => do
    let given ← Given.read generateSwitches 0 rest {}
    .ok (finish given given.generate)
  | "resolve" => do
    let given ← Given.read resolveSwitches 1 rest {}
    .ok (finish given (← given.resolve))
  | "diff" => do
    let given ← Given.read diffSwitches 0 rest {}
    .ok (finish given given.diff)
  | "init" => do
    let given ← Given.read initSwitches 0 rest {}
    .ok (finish given given.init)
  | "help" => .error (readHelp rest)
  | other => .error (.misuse (.unknownArgument other))

end Command

end VaultModels
