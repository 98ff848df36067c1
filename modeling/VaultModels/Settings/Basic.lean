import VaultModels.Model.Options
import VaultModels.Settings.Error

/-!
# Settings

What a run is told by its settings file and its command line: the project, the snapshot and the
shape of the generated files. The command line goes before the file, the file before the defaults.
-/
namespace VaultModels

structure Settings where
  /-- The project directory; generated files go below it. -/
  directory : Path := ⟨"."⟩
  rootNamespace : String := ""
  /-- The schema snapshot; a relative path starts at the project directory. -/
  snapshot : Path := ⟨"schema.json"⟩
  partials : Bool := false
  /-- Whether generated files that are there already are replaced. -/
  overwrite : Bool := false
  layout : Code.Layout := {}
  deriving DecidableEq, Repr

namespace Settings

def fileName : Path := ⟨"mf-scaffold.toml"⟩

def snapshotPath (settings : Settings) : Path := settings.directory.join settings.snapshot

/-- Options of generation that the settings stand for. -/
def options (settings : Settings) : Model.Options where
  rootNamespace := settings.rootNamespace
  partials := settings.partials
  layout := settings.layout

/-- Paths in different spellings are the same setting. -/
def same (left right : Settings) : Bool :=
  left.directory.same right.directory && left.snapshot.same right.snapshot &&
    decide ({ left with directory := right.directory, snapshot := right.snapshot } = right)

/-- Values from the command line. -/
structure Overrides where
  directory : Option Path := none
  rootNamespace : Option String := none
  snapshot : Option Path := none
  partials : Option Bool := none
  overwrite : Option Bool := none
  lineEnding : Option Code.LineEnding := none
  indent : Option Code.Indent := none
  deriving DecidableEq, Repr

def override (settings : Settings) (given : Overrides) : Settings where
  directory := given.directory.getD settings.directory
  rootNamespace := given.rootNamespace.getD settings.rootNamespace
  snapshot := given.snapshot.getD settings.snapshot
  partials := given.partials.getD settings.partials
  overwrite := given.overwrite.getD settings.overwrite
  layout :=
    { indent := given.indent.getD settings.layout.indent
      lineEnding := given.lineEnding.getD settings.layout.lineEnding }

end Settings

end VaultModels
