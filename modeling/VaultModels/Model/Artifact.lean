import VaultModels.Path

/-!
# Artifacts

One generated file: where it goes, what it holds and what it is.
-/
namespace VaultModels.Model

inductive ArtifactKind where
  | baseWrapper
  | propertyEnum
  | objectType
  | objectClass
  /-- Hand-editable companion of a class; never overwritten. -/
  | classPartial
  | valueListEnum
  deriving DecidableEq, Repr

namespace ArtifactKind

def all : List ArtifactKind :=
  [.baseWrapper, .propertyEnum, .objectType, .objectClass, .classPartial, .valueListEnum]

def name : ArtifactKind → String
  | .baseWrapper => "BaseWrapper"
  | .propertyEnum => "PropertyEnum"
  | .objectType => "ObjectType"
  | .objectClass => "Class"
  | .classPartial => "ClassPartial"
  | .valueListEnum => "ValueListEnum"

def isHandEditable (kind : ArtifactKind) : Bool := kind == .classPartial

end ArtifactKind

structure Artifact where
  /-- Relative to the project directory. -/
  path : Path
  content : String
  kind : ArtifactKind
  deriving DecidableEq, Repr

end VaultModels.Model
