import VaultModels.Settings.Basic
import VaultModels.Toml.Document

/-!
# Settings files

The settings in a TOML document: the tables `project`, `schema` and `generation`, all of whose keys
may be left out. Unknown keys do not count, though their values have to be readable. A section may
also be an array of its values in declared order; items after them are not looked at.
-/
namespace VaultModels.Settings

open Code Toml

/-- A key of a section, and what its value does to the settings. -/
structure Key where
  name : String
  apply : Value → Settings → Option Settings

def lineEnding? : String → Option LineEnding
  | "lf" => some .lf
  | "crlf" => some .crlf
  | _ => none

def indent? : String → Option Indent
  | "spaces2" => some .spaces2
  | "spaces4" => some .spaces4
  | "tabs" => some .tabs
  | _ => none

def lineEndingName : LineEnding → String
  | .lf => "lf"
  | .crlf => "crlf"

def indentName : Indent → String
  | .spaces2 => "spaces2"
  | .spaces4 => "spaces4"
  | .tabs => "tabs"

def text? : Value → Option String
  | .text value => some value
  | _ => none

def boolean? : Value → Option Bool
  | .boolean value => some value
  | _ => none

/-- A name stands alone, or is the only key of a table and has nothing in it. -/
def choice? {α : Type} (ofName? : String → Option α) : Value → Option α
  | .text name => ofName? name
  | .table _ [(name, .table _ [])] | .table _ [(name, .array [])] => ofName? name
  | _ => none

def projectKeys : List Key :=
  [⟨"dir", fun value settings =>
      (text? value).map fun text => { settings with directory := ⟨text⟩ }⟩,
   ⟨"root_namespace", fun value settings =>
      (text? value).map fun text => { settings with rootNamespace := text }⟩]

def schemaKeys : List Key :=
  [⟨"snapshot", fun value settings =>
      (text? value).map fun text => { settings with snapshot := ⟨text⟩ }⟩]

def generationKeys : List Key :=
  [⟨"partials", fun value settings =>
      (boolean? value).map fun partials => { settings with partials }⟩,
   ⟨"force", fun value settings =>
      (boolean? value).map fun overwrite => { settings with overwrite }⟩,
   ⟨"line_ending", fun value settings =>
      (choice? lineEnding? value).map fun lineEnding =>
        { settings with layout := { settings.layout with lineEnding } }⟩,
   ⟨"indent", fun value settings =>
      (choice? indent? value).map fun indent =>
        { settings with layout := { settings.layout with indent } }⟩]

def sections : List (String × List Key) :=
  [("project", projectKeys), ("schema", schemaKeys), ("generation", generationKeys)]

def applyEntries (keys : List Key) : Entries → Settings → Option Settings
  | [], settings => some settings
  | (name, value) :: rest, settings =>
    match keys.find? (·.name == name) with
    | none => if value.isReadable then applyEntries keys rest settings else none
    | some key => do applyEntries keys rest (← key.apply value settings)

def applyItems : List Key → List Value → Settings → Option Settings
  | key :: keys, value :: rest, settings => do applyItems keys rest (← key.apply value settings)
  | _, _, settings => some settings

/-- A date-time says nothing; any other scalar is no section. -/
def applySection (keys : List Key) : Value → Settings → Option Settings
  | .table _ entries, settings => applyEntries keys entries settings
  | .array items, settings => applyItems keys items settings
  | .tables rows, settings => applyItems keys (rows.map (.table .header)) settings
  | .dateTime _, settings => some settings
  | _, _ => none

def applySections : Entries → Settings → Option Settings
  | [], settings => some settings
  | (name, value) :: rest, settings =>
    match sections.lookup name with
    | none => if value.isReadable then applySections rest settings else none
    | some keys => do applySections rest (← applySection keys value settings)

/-- The settings of a file; `path` is named in errors. -/
def parse (path : Path) (text : String) : Except Error Settings :=
  match Toml.parse text with
  | none => .error (.invalidToml path "not a TOML document")
  | some entries =>
    match applySections entries {} with
    | none => .error (.invalidToml path "a value does not fit its key")
    | some settings => .ok settings

/-- A settings file that says what holds without one. -/
def defaultText : String :=
  String.join <| [
    "# mf-scaffold configuration file",
    "",
    "[project]",
    "# Project directory; generated files go to <dir>/Models",
    "dir = \".\"",
    "",
    "# Root namespace of the project; types are generated into <root_namespace>.Models",
    "root_namespace = \"\"",
    "",
    "[schema]",
    "# JSON schema snapshot exported from the vault (relative to the project directory)",
    "snapshot = \"schema.json\"",
    "",
    "[generation]",
    "# Split each class into Models/<Class>.cs and a hand-editable Models/Partials/<Class>.cs",
    "partials = false",
    "",
    "# Overwrite existing generated files (partials are never overwritten)",
    "force = false",
    "",
    "# Line endings of generated files (lf, crlf)",
    "line_ending = \"crlf\"",
    "",
    "# Indentation of generated files (spaces2, spaces4, tabs)",
    "indent = \"spaces4\""].map (· ++ "\n")

end VaultModels.Settings
