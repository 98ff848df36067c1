import VaultModels.Path
import VaultModels.SystemError

/-!
# File trees

A file system as a value: which places hold a file, with its content, and which hold a directory. A
path is followed segment by segment, from the top or from the working directory, as the operating
system does it, so each operation fails for the same reason as there.
-/
namespace VaultModels.Files

/-- Names from the top down. -/
abbrev Place := List String

inductive Entry where
  | file (content : String)
  | directory
  deriving DecidableEq, Repr

/-- The top is a directory without an entry of its own. -/
structure Tree where
  entries : List (Place × Entry) := []
  /-- Where paths start that do not start at the top. -/
  working : Place := []
  deriving DecidableEq, Repr

namespace Tree

def entry? (tree : Tree) (place : Place) : Option Entry :=
  if place = [] then some .directory else tree.entries.lookup place

def setEntries : List (Place × Entry) → Place → Entry → List (Place × Entry)
  | [], place, entry => [(place, entry)]
  | (head, old) :: rest, place, entry =>
    if head = place then (head, entry) :: rest else (head, old) :: setEntries rest place entry

def set (tree : Tree) (place : Place) (entry : Entry) : Tree :=
  { tree with entries := setEntries tree.entries place entry }

/-- The most bytes that one name may have. -/
def nameLimit : Nat := 255

/-- Paths have fewer bytes than this. -/
def pathLimit : Nat := 4096

/-- One step down. A name that is too long is refused before it is looked up. -/
def step (tree : Tree) (place : Place) (segment : String) : Except SystemError Place :=
  match tree.entry? place with
  | none => .error .noSuchFile
  | some (.file _) => .error .notDirectory
  | some .directory =>
    if segment = "" ∨ segment = "." then .ok place
    else if segment = ".." then .ok place.dropLast
    else if segment.utf8ByteSize > nameLimit then .error .nameTooLong
    else .ok (place ++ [segment])

/-- The place that segments lead to; only the last may name nothing. -/
def follow (tree : Tree) : Place → List String → Except SystemError Place
  | place, [] => .ok place
  | place, segment :: rest => do
    let next ← tree.step place segment
    tree.follow next rest

/-- Where a path starts. -/
def start (tree : Tree) (path : Path) : Place := if path.isAbsolute then [] else tree.working

/-- The segments of a path that may be followed at all. -/
def usable (path : Path) : Except SystemError (List String) :=
  if path.text.toList.contains '\x00' then .error .nulInPath
  else if path.text = "" then .error .noSuchFile
  else if path.text.utf8ByteSize ≥ pathLimit then .error .nameTooLong
  else .ok ((Path.segments path.text.toList).map String.ofList)

def locate (tree : Tree) (path : Path) : Except SystemError (Place × Entry) := do
  let segments ← usable path
  let place ← tree.follow (tree.start path) segments
  match tree.entry? place with
  | none => .error .noSuchFile
  | some entry => .ok (place, entry)

def has (tree : Tree) (path : Path) : Bool := (tree.locate path).isOk

def isDirectory (tree : Tree) (path : Path) : Bool :=
  match tree.locate path with
  | .ok (_, .directory) => true
  | _ => false

def read (tree : Tree) (path : Path) : Except SystemError String := do
  match ← tree.locate path with
  | (_, .directory) => .error .isDirectory
  | (_, .file content) => .ok content

/-- A last segment that cannot name something new. -/
def namesDirectory (segment : String) : Bool :=
  segment == "" || segment == "." || segment == ".."

def dropFinalSeparators (segments : List String) : List String :=
  (segments.reverse.dropWhile (· == "")).reverse

/-- The directory that is to hold the last segment, and that segment. -/
def target (tree : Tree) (start : Place) (segments : List String) :
    Except SystemError (Place × String) := do
  let parent ← tree.follow start segments.dropLast
  let parent ← tree.step parent ""
  .ok (parent, segments.getLast?.getD "")

/-- Creates or replaces a file. A path with a final separator names no file. -/
def write (tree : Tree) (path : Path) (content : String) : Except SystemError Tree := do
  let segments ← usable path
  let kept := dropFinalSeparators segments
  let (parent, last) ← tree.target (tree.start path) kept
  if kept ≠ segments ∨ namesDirectory last then .error .isDirectory
  else do
    let place ← tree.step parent last
    if tree.entry? place = some .directory then .error .isDirectory
    else .ok (tree.set place (.file content))

/-- Creates one directory in a directory that is there; final separators do not count. -/
def makeDirectory (tree : Tree) (path : Path) : Except SystemError Tree := do
  let segments ← usable path
  let (parent, last) ← tree.target (tree.start path) (dropFinalSeparators segments)
  if namesDirectory last then .error .fileExists
  else do
    let place ← tree.step parent last
    if (tree.entry? place).isSome then .error .fileExists
    else .ok (tree.set place .directory)

end Tree

end VaultModels.Files
