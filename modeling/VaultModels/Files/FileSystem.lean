import VaultModels.Files.Tree

/-!
# File systems

The file operations a run needs, over any monad that has them. `Tree.fileSystem` has them over a
file tree.
-/
namespace VaultModels.Files

structure FileSystem (m : Type → Type) where
  /-- Whether the path leads to something. -/
  exists? : Path → m Bool
  isDirectory : Path → m Bool
  /-- Creates one directory. -/
  makeDirectory : Path → m (Except SystemError Unit)
  read : Path → m (Except SystemError String)
  /-- Creates or replaces a file. -/
  write : Path → String → m (Except SystemError Unit)

/-- Takes over the tree that an operation leaves; a failed one leaves it as it was. -/
def Tree.commit (result : Except SystemError Tree) : StateM Tree (Except SystemError Unit) :=
  fun tree =>
    match result with
    | .ok next => (.ok (), next)
    | .error error => (.error error, tree)

def Tree.fileSystem : FileSystem (StateM Tree) where
  exists? path := fun tree => (tree.has path, tree)
  isDirectory path := fun tree => (tree.isDirectory path, tree)
  makeDirectory path := fun tree => Tree.commit (tree.makeDirectory path) tree
  read path := fun tree => (tree.read path, tree)
  write path content := fun tree => Tree.commit (tree.write path content) tree

/-- A path and its parents, upwards, without the empty path and the root. -/
def ancestors : Nat → Path → List Path
  | 0, _ => []
  | fuel + 1, path =>
    match path.parent? with
    | none => []
    | some parent => path :: ancestors fuel parent

section

variable {m : Type → Type} [Monad m]

/-- Creates a directory unless it is there. -/
def FileSystem.ensureDirectory (files : FileSystem m) (path : Path) :
    m (Except SystemError Unit) := do
  match ← files.makeDirectory path with
  | .error .fileExists =>
    if ← files.isDirectory path then pure (.ok ()) else pure (.error .fileExists)
  | result => pure result

/-- Creates the first path, where its parents follow it; parents that are missing come first. -/
def FileSystem.ensureChain (files : FileSystem m) : List Path → m (Except SystemError Unit)
  | [] => pure (.ok ())
  | path :: parents => do
    match ← files.ensureDirectory path with
    | .error .noSuchFile => do
      match ← files.ensureChain parents with
      | .ok () => files.ensureDirectory path
      | .error error => pure (.error error)
    | result => pure result

/-- Creates a directory and all parents that are missing. -/
def FileSystem.makeDirectories (files : FileSystem m) (path : Path) :
    m (Except SystemError Unit) :=
  files.ensureChain (ancestors (path.components.length + 1) path)

end

end VaultModels.Files
