/-!
# Value kinds

The declared data type of a property definition, and how the vault fills a property by itself.
-/
namespace VaultModels.Schema

inductive ValueKind where
  | uninitialized
  | text
  | multiLineText
  | integer
  | integer64
  | floating
  | date
  | time
  | timestamp
  | boolean
  | lookup
  | multiSelectLookup
  | fileTime
  | acl
  deriving DecidableEq, Repr

namespace ValueKind

def all : List ValueKind :=
  [.uninitialized, .text, .multiLineText, .integer, .integer64, .floating, .date, .time,
   .timestamp, .boolean, .lookup, .multiSelectLookup, .fileTime, .acl]

/-- The vault's own name for the data type. -/
def name : ValueKind → String
  | .uninitialized => "MFDatatypeUninitialized"
  | .text => "MFDatatypeText"
  | .multiLineText => "MFDatatypeMultiLineText"
  | .integer => "MFDatatypeInteger"
  | .integer64 => "MFDatatypeInteger64"
  | .floating => "MFDatatypeFloating"
  | .date => "MFDatatypeDate"
  | .time => "MFDatatypeTime"
  | .timestamp => "MFDatatypeTimestamp"
  | .boolean => "MFDatatypeBoolean"
  | .lookup => "MFDatatypeLookup"
  | .multiSelectLookup => "MFDatatypeMultiSelectLookup"
  | .fileTime => "MFDatatypeFILETIME"
  | .acl => "MFDatatypeACL"

/-- The name used in data files. -/
def wireName : ValueKind → String
  | .uninitialized => "uninitialized"
  | .text => "text"
  | .multiLineText => "multi_line_text"
  | .integer => "integer"
  | .integer64 => "integer64"
  | .floating => "floating"
  | .date => "date"
  | .time => "time"
  | .timestamp => "timestamp"
  | .boolean => "boolean"
  | .lookup => "lookup"
  | .multiSelectLookup => "multi_select_lookup"
  | .fileTime => "file_time"
  | .acl => "acl"

def ofWireName? (text : String) : Option ValueKind := all.find? (·.wireName == text)

/-- Values of a lookup kind point into a value list. -/
def isLookup (kind : ValueKind) : Bool := kind == .lookup || kind == .multiSelectLookup

end ValueKind

inductive AutomaticValue where
  | none
  | calculatedWithPlaceholders
  | calculatedWithScript
  | autoNumberSimple
  | autoNumberWithScript
  deriving DecidableEq, Repr

namespace AutomaticValue

def all : List AutomaticValue :=
  [.none, .calculatedWithPlaceholders, .calculatedWithScript, .autoNumberSimple,
   .autoNumberWithScript]

def wireName : AutomaticValue → String
  | .none => "none"
  | .calculatedWithPlaceholders => "calculated_with_placeholders"
  | .calculatedWithScript => "calculated_with_script"
  | .autoNumberSimple => "auto_number_simple"
  | .autoNumberWithScript => "auto_number_with_script"

def ofWireName? (text : String) : Option AutomaticValue := all.find? (·.wireName == text)

end AutomaticValue

end VaultModels.Schema
