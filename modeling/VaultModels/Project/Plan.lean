import VaultModels.Project.Rendering
import VaultModels.Project.Writer
import VaultModels.Schema.Backend

/-!
# Plans

A run has two passes. Planning renders every artifact and checks the project for files that would be
replaced; a rejected plan writes nothing. Applying hands the accepted artifacts to the writer in
order and stops at the first that cannot be written.
-/
namespace VaultModels.Project

open Model Schema

inductive Action where
  | write
  /-- A hand-editable file is there already and stays as it is. -/
  | keepExisting
  deriving DecidableEq, Repr

structure PlannedArtifact where
  artifact : Artifact
  action : Action
  deriving DecidableEq, Repr

/-- Accepted artifacts in walk order. -/
structure Plan where
  artifacts : List PlannedArtifact := []
  deriving DecidableEq, Repr

def Action.choose (overwrite : Bool) (artifact : Artifact) (isThere : Bool) :
    Except Refusal Action :=
  if artifact.kind.isHandEditable ∧ isThere then .ok .keepExisting
  else if isThere ∧ !overwrite then .error (.conflict artifact.path)
  else .ok .write

/-- The plan for artifacts that are there already or not; the first conflict rejects it. -/
def settle (overwrite : Bool) : List (Artifact × Bool) → Except Refusal (List PlannedArtifact)
  | [] => .ok []
  | (artifact, isThere) :: rest => do
    let action ← Action.choose overwrite artifact isThere
    let others ← settle overwrite rest
    .ok (⟨artifact, action⟩ :: others)

namespace Plan

def paths (plan : Plan) : List Path := plan.artifacts.map (·.artifact.path)

/-- The artifact that goes to `path`. -/
def get? (plan : Plan) (path : Path) : Option Artifact :=
  (plan.artifacts.map (·.artifact)).find? fun artifact => artifact.path.same path

end Plan

/-- What applying a plan did. -/
structure Report where
  /-- One result per artifact handed to the writer. -/
  results : List WriteResult := []
  /-- Hand-editable files left as they were. -/
  kept : List Path := []
  deriving DecidableEq, Repr

namespace Report

def bytesWritten (report : Report) : Nat :=
  (report.results.map WriteResult.bytes).foldr (· + ·) 0

def addResult (result : WriteResult) (report : Report) : Report :=
  { report with results := result :: report.results }

def addKept (path : Path) (report : Report) : Report :=
  { report with kept := path :: report.kept }

end Report

/-- What applying left: the outcome, and what the host was told on the way. -/
structure Applied where
  result : Except WriteError Report
  messages : List Message

def addingMessage (path : Path) : Message := ⟨.info, "Adding " ++ path.text ++ " to project."⟩

def keepingMessage (path : Path) : Message := ⟨.verbose, "Keeping existing " ++ path.text⟩

/-- The outcome of the rest of a plan, after one artifact is dealt with. -/
def Applied.after (message : Message) (note : Report → Report) (rest : Applied) : Applied :=
  ⟨rest.result.map note, message :: rest.messages⟩

section

variable {m : Type → Type} [Monad m] {σ : Type}

def applyFrom (writer : Writer m) : List PlannedArtifact → m Applied
  | [] => pure ⟨.ok {}, []⟩
  | ⟨artifact, .keepExisting⟩ :: rest => do
    let others ← applyFrom writer rest
    pure (others.after (keepingMessage artifact.path) (Report.addKept artifact.path))
  | ⟨artifact, .write⟩ :: rest => do
    match ← writer.write artifact with
    | .error error => pure ⟨.error error, [addingMessage artifact.path]⟩
    | .ok result => do
      let others ← applyFrom writer rest
      pure (others.after (addingMessage artifact.path) (Report.addResult result))

def Plan.apply (writer : Writer m) (plan : Plan) : m Applied := applyFrom writer plan.artifacts

/-- Each artifact with whether something is at its target. -/
def inspect (writer : Writer m) : List Artifact → m (List (Artifact × Bool))
  | [] => pure []
  | artifact :: rest => do
    let isThere ← writer.exists? artifact.path
    let others ← inspect writer rest
    pure ((artifact, isThere) :: others)

/-- Plans a run over a backend whose listings are fetched once. The project is looked at only when
everything has been rendered. -/
def plan (backend : Backend σ) (options : Options) (writer : Writer m) (overwrite : Bool)
    (state : Cache × σ) : m (Finished RunError Plan (Cache × σ)) := do
  let rendered := (render options).run backend.cached state
  match rendered.result with
  | .error error => pure ⟨.error error, rendered.messages, rendered.state⟩
  | .ok artifacts => do
    let inspected ← inspect writer artifacts
    let decided := ((settle overwrite inspected).map Plan.mk).mapError RunError.refused
    pure ⟨decided, rendered.messages, rendered.state⟩

/-- Plans and applies. -/
def generate (backend : Backend σ) (options : Options) (writer : Writer m) (overwrite : Bool)
    (state : Cache × σ) : m (Finished RunError Report (Cache × σ)) := do
  let planned ← plan backend options writer overwrite state
  match planned.result with
  | .error error => pure ⟨.error error, planned.messages, planned.state⟩
  | .ok accepted => do
    let applied ← accepted.apply writer
    pure ⟨applied.result.mapError .write, planned.messages ++ applied.messages, planned.state⟩

end

end VaultModels.Project
