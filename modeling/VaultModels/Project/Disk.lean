import VaultModels.Files.FileSystem
import VaultModels.Project.Writer

/-!
# Projects on disk

A writer that puts artifacts below a root directory, or only shows what it would put there.
-/
namespace VaultModels.Project

open Files Model

structure Disk where
  root : Path
  isDryRun : Bool
  deriving DecidableEq, Repr

namespace Disk

variable {m : Type → Type} [Monad m]

def place (disk : Disk) (path : Path) : Path := disk.root.join path

/-- Creates the directory of a file if it is not there. -/
def prepare (files : FileSystem m) (path : Path) : m (Except WriteError Unit) := do
  match path.parent? with
  | none => pure (.ok ())
  | some parent =>
    if ← files.exists? parent then pure (.ok ())
    else do
      let made ← files.makeDirectories parent
      pure (made.mapError (.createDirectory parent))

def store (files : FileSystem m) (path : Path) (content : String) :
    m (Except WriteError WriteResult) := do
  match ← prepare files path with
  | .error error => pure (.error error)
  | .ok () => do
    match ← files.write path content with
    | .error cause => pure (.error (.writeFile path cause))
    | .ok () => pure (.ok (.written path content.utf8ByteSize))

def write (files : FileSystem m) (disk : Disk) (artifact : Artifact) :
    m (Except WriteError WriteResult) := do
  let path := disk.place artifact.path
  let isProtected ← if artifact.kind.isHandEditable then files.exists? path else pure false
  if isProtected then pure (.error (.protectedPartial path))
  else if disk.isDryRun then pure (.ok (.preview path artifact.content))
  else store files path artifact.content

def writer (files : FileSystem m) (disk : Disk) : Writer m where
  exists? path := files.exists? (disk.place path)
  write := disk.write files
  openForEditing path := pure (disk.place path)

end Disk

end VaultModels.Project
