import VaultModels.Command.Arguments
import VaultModels.Command.Error
import VaultModels.Project.Disk
import VaultModels.Project.Plan
import VaultModels.Resolution.ObjectReference
import VaultModels.Resolution.Reference
import VaultModels.Schema.Codecs

/-!
# Running commands

What each command does to a file system, which lines it prints and with which status it ends.
-/
namespace VaultModels

namespace Command

open Files Project Resolution Schema Text

/-- Where a line is printed. -/
inductive Stream where
  | output
  | error
  deriving DecidableEq, Repr

structure Line where
  stream : Stream
  text : String
  deriving DecidableEq, Repr

def out (text : String) : Line := ⟨.output, text⟩

def err (text : String) : Line := ⟨.error, text⟩

/-- The lines of a command, and how it ended. -/
structure Ran where
  lines : List Line
  result : Except Error Unit

/-- What the caller of the program sees. -/
structure Outcome where
  lines : List Line
  status : UInt32

/-- Everything printed to one stream. -/
def Outcome.printed (outcome : Outcome) (stream : Stream) : String :=
  String.join ((outcome.lines.filter (·.stream == stream)).map (·.text ++ "\n"))

def Ran.outcome (ran : Ran) : Outcome :=
  match ran.result with
  | .ok () => ⟨ran.lines, 0⟩
  | .error error => ⟨ran.lines ++ [err ("Error: " ++ error.message)], error.status⟩

/-- Verbose messages are printed on request only. -/
def messageLine? (isVerbose : Bool) (message : Message) : Option Line :=
  match message.channel with
  | .info => some (out ("  " ++ message.text))
  | .warning => some (err ("Warning: " ++ message.text))
  | .verbose => if isVerbose then some (out ("  " ++ message.text)) else none

section

variable {m : Type → Type} [Monad m]

/-- The settings of a file that has to be there. -/
def readSettings (files : FileSystem m) (path : Path) : m (Except Settings.Error Settings) := do
  match ← files.read path with
  | .error cause => pure (.error (.unreadable path cause))
  | .ok text => pure (Settings.parse path text)

/-- Without a name the default file is taken, if it is there. -/
def loadSettings (files : FileSystem m) (name : Option Path) :
    m (Except Settings.Error Settings) := do
  if ← files.exists? (name.getD Settings.fileName) then
    readSettings files (name.getD Settings.fileName)
  else match name with
    | some path => pure (.error (.notFound path))
    | none => pure (.ok {})

def loadSnapshot (files : FileSystem m) (path : Path) : m (Except Error Snapshot) := do
  if ← files.exists? path then
    match ← files.read path with
    | .error cause => pure (.error (.run (.schema (.unreadable path cause))))
    | .ok text =>
      match Snapshot.ofJson? text with
      | .error fault => pure (.error (.run (.schema (.invalidSnapshot path fault.message))))
      | .ok snapshot => pure (.ok snapshot)
  else pure (.error (.validation ("Schema snapshot not found: " ++ path.text)))

def countLine (snapshot : Snapshot) : Line :=
  out ("  " ++ natText snapshot.objectTypes.length ++ " object type(s), " ++
    natText snapshot.classes.length ++ " class(es), " ++
    natText snapshot.propertyDefs.length ++ " property definition(s)")

def rule : String := String.ofList (List.replicate 60 '─')

def previewLines : WriteResult → List Line
  | .written _ _ => []
  | .preview path content =>
    [out ("[dry-run] Would write to " ++ path.text ++ ":"), out rule, out content, out rule]

def totalLine (root : Path) (isDryRun : Bool) (report : Report) : Line :=
  if isDryRun then
    out ("[dry-run] " ++ natText report.results.length ++ " file(s) would be written")
  else
    out ("✓ Written " ++ natText report.results.length ++ " file(s), " ++
      natText report.bytesWritten ++ " bytes to " ++ root.text)

def keptLines (report : Report) : List Line :=
  if report.kept = [] then []
  else [out ("  Kept " ++ natText report.kept.length ++ " existing partial file(s)")]

def reportLines (root : Path) (isDryRun : Bool) (report : Report) : List Line :=
  report.results.flatMap previewLines ++ totalLine root isDryRun report :: keptLines report

def runGenerate (files : FileSystem m) (isVerbose isDryRun : Bool) (settings : Settings) :
    m Ran := do
  let loading := out "Loading schema snapshot..."
  match ← loadSnapshot files settings.snapshotPath with
  | .error error => pure ⟨[loading], .error error⟩
  | .ok snapshot => do
    let disk : Disk := ⟨settings.directory, isDryRun⟩
    let finished ← Project.generate snapshot.backend settings.options (disk.writer files)
      settings.overwrite ([], ())
    let lines := [loading, countLine snapshot, out "Generating models..."] ++
      finished.messages.filterMap (messageLine? isVerbose)
    match finished.result with
    | .error error => pure ⟨lines, .error (.run error)⟩
    | .ok report => pure ⟨lines ++ reportLines settings.directory isDryRun report, .ok ()⟩

/-- The text that names the element or the object that was found. -/
def resolved (snapshot : Snapshot) (kind : Option Kind) (isItem : Bool) (reference : String) :
    Except Error String :=
  let run {α : Type} (session : Resolving α) (display : α → String) : Except Error String :=
    match (session.run snapshot.backend ()).result with
    | .error error => .error (.run (.resolution error))
    | .ok found => .ok (display found)
  if isItem then run (ObjectReference.text reference).resolve ObjectRef.display
  else match kind with
    | none => .error (.validation "Either --kind or --item is required")
    | some kind => run ((Reference.text reference).resolve kind) int32Text

def runResolve (files : FileSystem m) (settings : Settings) (kind : Option Kind) (isItem : Bool)
    (reference : String) : m Ran := do
  match ← loadSnapshot files settings.snapshotPath with
  | .error error => pure ⟨[], .error error⟩
  | .ok snapshot =>
    match resolved snapshot kind isItem reference with
    | .error error => pure ⟨[], .error error⟩
    | .ok text => pure ⟨[out text], .ok ()⟩

/-- No mode compares anything yet. -/
def runDiff (_ : DiffMode) : Ran := ⟨[err "Warning: Functionality not completed."], .ok ()⟩

def writeSettings (files : FileSystem m) (output : Path) : m Ran := do
  match ← files.write output Settings.defaultText with
  | .error cause => pure ⟨[], .error (.system cause)⟩
  | .ok () => pure ⟨[out ("✓ Created configuration file: " ++ output.text)], .ok ()⟩

def runInit (files : FileSystem m) (output : Path) (overwrite : Bool) : m Ran := do
  let isThere ← files.exists? output
  if isThere && !overwrite then
    pure
      ⟨[out ("Error: Configuration file already exists: " ++ output.text),
        out "  Use --force to overwrite"],
       .error (.validation "Configuration file already exists")⟩
  else writeSettings files output

def withSettings (files : FileSystem m) (name : Option Path) (given : Settings.Overrides)
    (continueWith : Settings → m Ran) : m Ran := do
  match ← loadSettings files name with
  | .error error => pure ⟨[], .error (.settings error)⟩
  | .ok settings => continueWith (settings.override given)

def run (files : FileSystem m) (isVerbose : Bool) : Command → m Ran
  | .generate given isDryRun settingsFile =>
    withSettings files settingsFile given (runGenerate files isVerbose isDryRun)
  | .resolve kind isItem snapshot settingsFile reference =>
    withSettings files settingsFile { snapshot } fun settings =>
      runResolve files settings kind isItem reference
  | .diff mode => pure (runDiff mode)
  | .init output overwrite => runInit files output overwrite

end

def versionText : String := "mf-scaffold 0.1.0"

def usage : List String :=
  ["Generate C# models from an M-Files vault schema",
   "",
   "Usage: mf-scaffold [-v] <command>",
   "",
   "  generate [-p <dir>] [-n <namespace>] [-s <snapshot>] [--partials] [-f] [--dry-run]",
   "           [--line-ending lf|crlf] [--indent spaces2|spaces4|tabs] [-c <file>]",
   "  resolve  -k <kind> | --item [-s <snapshot>] [-c <file>] <reference>",
   "  diff     [-m server-and-local|server-and-models|local-and-models]",
   "  init     [-o <file>] [--force]",
   "  help     [<command>]"]

/-- Help and the version end well; a misuse does not. -/
def Stop.outcome : Stop → Outcome
  | .help => ⟨usage.map out, 0⟩
  | .version => ⟨[out versionText], 0⟩
  | .misuse fault => ⟨err ("error: " ++ fault.message) :: usage.map err, 2⟩

/-- The whole program: what it prints and its status for the given arguments. -/
def execute {m : Type → Type} [Monad m] (files : FileSystem m) (arguments : List String) :
    m Outcome := do
  match ofArguments arguments with
  | .error stop => pure stop.outcome
  | .ok invocation => do
    let ran ← run files invocation.isVerbose invocation.command
    pure ran.outcome

end Command

end VaultModels
