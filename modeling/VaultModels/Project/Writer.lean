import VaultModels.Model.Artifact
import VaultModels.Project.WriteError

/-!
# Writers

The place where artifacts go, as a run sees it. `Memory` is the project that is held in memory, its
files in the order of their paths.
-/
namespace VaultModels.Project

open Model

inductive WriteResult where
  | written (path : Path) (bytes : Nat)
  /-- What a dry run would have written. -/
  | preview (path : Path) (content : String)
  deriving DecidableEq, Repr

namespace WriteResult

def path : WriteResult → Path
  | .written path _ | .preview path _ => path

/-- Nothing is written in a dry run. -/
def bytes : WriteResult → Nat
  | .written _ bytes => bytes
  | .preview _ _ => 0

end WriteResult

/-- Paths are relative to the project. -/
structure Writer (m : Type → Type) where
  /-- Whether something is there already. -/
  exists? : Path → m Bool
  /-- A hand-editable artifact never replaces what is there. -/
  write : Artifact → m (Except WriteError WriteResult)
  /-- The place to open in an editor. -/
  openForEditing : Path → m Path

/-- A writer that refuses the given targets before `inner` sees them. -/
def Writer.refusing {m : Type → Type} [Monad m] (targets : List Path) (cause : SystemError)
    (inner : Writer m) : Writer m :=
  { inner with
    write := fun artifact =>
      if targets.any artifact.path.same then pure (.error (.writeFile artifact.path cause))
      else inner.write artifact }

/-- Files by path. Each keeps the spelling under which it was first put there. -/
abbrev FileMap := List (Path × String)

namespace FileMap

def get? : FileMap → Path → Option String
  | [], _ => none
  | (path, content) :: rest, wanted => if path.same wanted then some content else get? rest wanted

def has (files : FileMap) (path : Path) : Bool := (files.get? path).isSome

def insert : FileMap → Path → String → FileMap
  | [], path, content => [(path, content)]
  | (head, old) :: rest, path, content =>
    if head.same path then (head, content) :: rest
    else if path.before head then (path, content) :: (head, old) :: rest
    else (head, old) :: insert rest path content

end FileMap

structure Memory where
  files : FileMap := []
  /-- Paths opened for editing, oldest first. -/
  opened : List Path := []
  deriving DecidableEq, Repr

namespace Memory

def put (memory : Memory) (path : Path) (content : String) : Memory :=
  { memory with files := memory.files.insert path content }

def write (memory : Memory) (artifact : Artifact) : Except WriteError WriteResult × Memory :=
  if artifact.kind.isHandEditable ∧ memory.files.has artifact.path then
    (.error (.protectedPartial artifact.path), memory)
  else
    (.ok (.written artifact.path artifact.content.utf8ByteSize),
      memory.put artifact.path artifact.content)

def writer : Writer (StateM Memory) where
  exists? path := fun memory => (memory.files.has path, memory)
  write artifact := fun memory => memory.write artifact
  openForEditing path := fun memory =>
    (path, { memory with opened := memory.opened ++ [path] })

end Memory

end VaultModels.Project
