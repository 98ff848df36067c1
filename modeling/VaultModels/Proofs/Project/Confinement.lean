import VaultModels.Proofs.Model.Subjects
import VaultModels.Proofs.Project.Dangling
import VaultModels.Proofs.Project.Generating
import VaultModels.Proofs.Project.Targets

/-!
# Where files can go

Names of a vault are free text, and file names are made from them, but only by way of identifiers.
With an extension that holds no separator every file lies directly in `Models`, or directly in
`Models/Partials` if it is to be edited by hand, whatever the names are. So a run leaves everything
else of a project in memory alone. Extensions with separators are not covered: there a file lies
deeper.
-/
namespace VaultModels

namespace Model.Options

open VaultModels.Path

variable (options : Options)

/-- An identifier with the extension, directly in `Models`. -/
def IsModelFile (path : Path) : Prop :=
  ∃ id, Name.isValid id ∧
    path.components = [.name "Models", .name (id ++ "." ++ options.extension)]

/-- An identifier with the extension, directly in `Models/Partials`. -/
def IsPartialFile (path : Path) : Prop :=
  ∃ id, Name.isValid id ∧
    path.components = [.name "Models", .name "Partials", .name (id ++ "." ++ options.extension)]

variable {options}

/-- The two folders hold no file in common. -/
theorem IsModelFile.not_partial {path : Path} (file : options.IsModelFile path) :
    ¬ options.IsPartialFile path := by
  rintro ⟨other, -, partials⟩
  obtain ⟨id, -, models⟩ := file
  rw [models] at partials
  simp at partials

end Model.Options

/-- The artifact goes to the file of an identifier: among the partials if it is one, and directly in
`Models` otherwise. -/
structure Model.Artifact.IsConfined (options : Model.Options) (artifact : Model.Artifact)
    (id : String) : Prop where
  valid : Name.isValid id
  spelled : artifact.path.text =
    (if artifact.kind = .classPartial then "Models/Partials/" else "Models/") ++ id ++ "." ++
      options.extension
  partial_iff : artifact.kind = .classPartial ↔ options.IsPartialFile artifact.path
  model_iff : artifact.kind ≠ .classPartial ↔ options.IsModelFile artifact.path

namespace Project

open Model Schema

variable {options : Options}

section

variable (flat : Path.separator ∉ options.extension.toList)

include flat

theorem artifactOf_confined (snapshot : Snapshot) (subject : Subject) :
    (snapshot.artifactOf options subject).IsConfined options subject.typeName := by
  have valid := subject.isValid_typeName
  by_cases hand : subject.kind = .classPartial
  · have kind : (snapshot.artifactOf options subject).kind = .classPartial := by
      rw [snapshot.artifactOf_kind, hand]
    have place : (snapshot.artifactOf options subject).path =
        options.partialPath subject.typeName := by
      rw [snapshot.artifactOf_path, Subject.path, if_pos hand]
    have inside : options.IsPartialFile (snapshot.artifactOf options subject).path :=
      ⟨subject.typeName, valid, by rw [place, Options.partialPath_flat flat valid]⟩
    refine ⟨valid, ?_, iff_of_true kind inside, iff_of_false (not_not_intro kind) ?_⟩
    · rw [if_pos kind, place, options.partialPath_text valid]
    · exact fun file => file.not_partial inside
  · have kind : (snapshot.artifactOf options subject).kind ≠ .classPartial := by
      rw [snapshot.artifactOf_kind]
      exact hand
    have place : (snapshot.artifactOf options subject).path =
        options.modelPath subject.typeName := by
      rw [snapshot.artifactOf_path, Subject.path, if_neg hand]
    have inside : options.IsModelFile (snapshot.artifactOf options subject).path :=
      ⟨subject.typeName, valid, by rw [place, Options.modelPath_flat flat valid]⟩
    refine ⟨valid, ?_, iff_of_false kind inside.not_partial, iff_of_true kind inside⟩
    rw [if_neg kind, place, options.modelPath_text valid]

/-- What a backend answers has no part in where its files go. -/
theorem placed_confined {artifact : Artifact} (placed : artifact.IsPlaced options) :
    options.IsModelFile artifact.path ∨ options.IsPartialFile artifact.path := by
  obtain ⟨stem, valid, place⟩ := placed
  split at place
  · exact .inr ⟨stem, valid, by rw [place, Options.partialPath_flat flat valid]⟩
  · exact .inl ⟨stem, valid, by rw [place, Options.modelPath_flat flat valid]⟩

/-- A run over any backend changes no other file of a project in memory. -/
theorem generate_confined {σ : Type} {backend : Backend σ} {overwrite : Bool} {state : Cache × σ}
    {memory : Memory} {path : Path}
    (changed : ((generate backend options Memory.writer overwrite state).run memory).2.files.get? path
      ≠ memory.files.get? path) :
    options.IsModelFile path ∨ options.IsPartialFile path := by
  cases ended : ((plan backend options Memory.writer overwrite state).run memory).1.result with
  | error error =>
    rw [generate_rejected ended] at changed
    exact absurd rfl changed
  | ok accepted =>
    rw [generate_accepted ended] at changed
    obtain ⟨artifacts, -, rendered, rfl⟩ := plan_accepted memory ended
    by_cases touched : ∃ artifact ∈ written (memory.accept artifacts).artifacts,
        artifact.path.same path
    · obtain ⟨artifact, member, equal⟩ := touched
      rw [written_accept] at member
      have file := placed_confined flat (rendered.placed artifact (List.mem_filter.mp member).1)
      simpa only [Options.IsModelFile, Options.IsPartialFile, (Path.same_iff _ _).mp equal]
        using file
    · refine absurd (Memory.putAll_get?_other fun artifact member => ?_) changed
      simpa using fun equal => touched ⟨artifact, member, equal⟩

end

/-- With an extension that holds no separator, every artifact of an accepted plan goes to a file of
one of the two shapes, the partials and only they to `Models/Partials`, and the identifier in its path
is the name of the type in its text. A run over any backend changes files of these shapes only.
Artifacts of one kind have one path exactly if the types in them have one name. -/
theorem files_confined (flat : Path.separator ∉ options.extension.toList) (snapshot : Snapshot) :
    (∀ (ω : Type) (call : PlanCall ω) (cache : Cache) (accepted : Plan), cache.Agrees snapshot →
      (call.run snapshot.backend options (cache, ())).result = .ok accepted →
      ∀ artifact ∈ accepted.artifacts.map (·.artifact), ∃ subject ∈ snapshot.subjects options,
        artifact = snapshot.artifactOf options subject ∧ artifact.Names options subject.typeName ∧
          artifact.IsConfined options subject.typeName) ∧
    (∀ (σ : Type) (backend : Backend σ) (overwrite : Bool) (state : Cache × σ) (memory : Memory)
      (path : Path),
      ((generate backend options Memory.writer overwrite state).run memory).2.files.get? path ≠
        memory.files.get? path →
      options.IsModelFile path ∨ options.IsPartialFile path) ∧
    (∀ first second : Subject,
      (snapshot.artifactOf options first).kind = (snapshot.artifactOf options second).kind →
      ((snapshot.artifactOf options first).path.same (snapshot.artifactOf options second).path ↔
        first.typeName = second.typeName)) := by
  refine ⟨?_, fun σ backend overwrite state memory path => generate_confined flat, ?_⟩
  · intro ω call cache accepted agrees ended artifact planned
    obtain ⟨subject, listed, rfl⟩ :=
      snapshot.exists_subject options (PlanCall.inventory_of_accepted agrees ended planned)
    exact ⟨subject, listed, rfl, snapshot.artifactOf_names options subject,
      artifactOf_confined flat snapshot subject⟩
  · intro first second alike
    rw [snapshot.artifactOf_kind, snapshot.artifactOf_kind] at alike
    rw [snapshot.artifactOf_path, snapshot.artifactOf_path]
    exact Subject.path_same options alike

/-- Every name is a way out of the project, or tries to be one. -/
def hostileSnapshot : Snapshot :=
  { objectTypes := [.real 0 "../../etc/passwd", .staticList 1 "/root", .staticList 2 ".."]
    classes :=
      [⟨1, "..", 0, [], none, []⟩, ⟨2, "C:\\Windows\x00", 0, [], none, []⟩,
       ⟨3, "./Partials/../x", 0, [], none, []⟩]
    propertyDefs := [] }

theorem files_confined_hostile :
    let call : PlanCall Memory := ⟨Memory.writer, {}, true⟩
    ∃ accepted, (call.run hostileSnapshot.backend sampleOptions ([], ())).result = .ok accepted ∧
      (∀ artifact ∈ accepted.artifacts.map (·.artifact),
        ∃ id, artifact.IsConfined sampleOptions id) ∧
      ∀ memory : Memory, ((generate hostileSnapshot.backend sampleOptions Memory.writer true
        ([], ())).run memory).2.files.get? ⟨"../../etc/passwd.cs"⟩ =
          memory.files.get? ⟨"../../etc/passwd.cs"⟩ := by
  intro call
  have agrees := Cache.agrees_empty hostileSnapshot
  have flat : Path.separator ∉ sampleOptions.extension.toList := by decide
  obtain ⟨accepted, ended⟩ := call.forced_accepted rfl sampleOptions agrees (by decide)
  obtain ⟨planned, changed, -⟩ := files_confined flat hostileSnapshot
  refine ⟨accepted, ended, fun artifact member => ?_, fun memory => ?_⟩
  · obtain ⟨subject, -, -, -, confined⟩ := planned _ call [] accepted agrees ended artifact member
    exact ⟨subject.typeName, confined⟩
  · have outside : (⟨"../../etc/passwd.cs"⟩ : Path).components.head? ≠ some (.name "Models") := by
      decide
    by_contra differs
    rcases changed _ _ _ _ _ _ differs with ⟨id, -, file⟩ | ⟨id, -, file⟩
    · exact outside (by rw [file]; rfl)
    · exact outside (by rw [file]; rfl)

end Project

end VaultModels
