import Mathlib.Data.List.Forall2
import VaultModels.Proofs.Model.Outages
import VaultModels.Proofs.Project.PlanCall

/-!
# Plans over a backend with outages

A backend that is down now and then cannot change what is generated. Planning either gets every answer
that it needs and then decides as over the snapshot itself, or it ends with an error on the schema's
side, and nothing that it leaves remembered is wrong. So it does not matter for a plan how many
earlier ones failed. How often an outage may strike is not limited; which error reports it is left
open.
-/
namespace VaultModels.Project

open Model Schema

section

variable {α : Type} {options : Options} {visit : Visitor α}

theorem walkClasses_surfaces (visits : ∀ seen artifact, SurfacesOutages (visit seen artifact))
    (classes : List ObjectClass) (seen : α) :
    SurfacesOutages (walkClasses options visit seen classes) := by
  induction classes generalizing seen with
  | nil => exact .done seen
  | cons cls rest ih =>
    refine (classFile_surfaces options cls).bind fun file => ?_
    refine (visits seen file).bind fun next => ?_
    dsimp only
    split
    · exact (visits next _).bind fun last => ih last
    · exact ih next

theorem walkTypes_surfaces (visits : ∀ seen artifact, SurfacesOutages (visit seen artifact))
    (types : List ObjectType) (seen : α) :
    SurfacesOutages (walkTypes options visit seen types) := by
  induction types generalizing seen with
  | nil => exact .done seen
  | cons type rest ih =>
    refine (typeBase_surfaces options type).bind fun base => ?_
    refine (visits seen base).bind fun next => ?_
    refine (surfaces_schema _).bind fun classes => ?_
    exact (walkClasses_surfaces visits classes next).bind fun last => ih last

theorem walkLists_surfaces (visits : ∀ seen artifact, SurfacesOutages (visit seen artifact))
    (lists : List ObjectType) (seen : α) :
    SurfacesOutages (walkLists options visit seen lists) := by
  induction lists generalizing seen with
  | nil => exact .done seen
  | cons list rest ih =>
    unfold walkLists
    split
    · exact ih seen
    · refine (valueListEnum_surfaces options list).bind fun items => ?_
      exact (visits seen items).bind fun next => ih next

theorem walk_surfaces (visits : ∀ seen artifact, SurfacesOutages (visit seen artifact))
    (start : α) : SurfacesOutages (walk options visit start) := by
  refine (wrapper_surfaces options).bind fun shared => ?_
  refine (visits start shared).bind fun seen => ?_
  refine (surfaces_schema _).bind fun properties => ?_
  refine (propertyEnum_surfaces options properties).bind fun enum => ?_
  refine (visits seen enum).bind fun next => ?_
  refine (surfaces_schema _).bind fun types => ?_
  refine (walkTypes_surfaces visits types next).bind fun last => ?_
  exact (surfaces_schema _).bind fun lists => walkLists_surfaces visits lists last

end

theorem render_surfaces (options : Options) : SurfacesOutages (render options) := by
  refine walk_surfaces (fun kept artifact => ?_) []
  unfold keepFirst
  split
  · exact .tell _ (.done _)
  · exact .done _

variable {σ ω : Type} {backend : Backend σ} {snapshot : Snapshot} {cache : Cache}

/-- One planning call: it gives what it gives over the snapshot, or an error on the schema's side. -/
theorem PlanCall.run_falters (call : PlanCall ω) (options : Options)
    (falters : backend.Falters snapshot) (agrees : cache.Agrees snapshot) (state : σ) :
    ((call.run backend options (cache, state)).result =
        (call.run snapshot.backend options ([], ())).result ∧
      (call.run backend options (cache, state)).messages =
        (call.run snapshot.backend options ([], ())).messages) ∨
    ∃ error : RunError, error.IsSchemaSide ∧
      (call.run backend options (cache, state)).result = .error error := by
  obtain ⟨after, -, direct⟩ := (render options).run_cached (Cache.agrees_empty snapshot)
  rw [PlanCall.run_eq, PlanCall.run_eq, direct]
  dsimp only
  rcases (render_surfaces options).run falters agrees state with ⟨result, messages⟩ | failed
  · rw [result, messages]
    exact .inl ⟨rfl, rfl⟩
  · obtain ⟨error, blamed, ended⟩ := failed
    rw [ended]
    exact .inr ⟨error, blamed, rfl⟩

/-- Planning calls of one orchestrator, one after another: what is remembered in one is there for the
next. -/
def runCalls (backend : Backend σ) (options : Options) :
    List (PlanCall ω) → Cache × σ → List (Finished RunError Plan (Cache × σ))
  | [], _ => []
  | call :: rest, state =>
    let finished := call.run backend options state
    finished :: runCalls backend options rest finished.state

/-- The call over a snapshot by an orchestrator of its own. -/
def PlanCall.freshOver (call : PlanCall ω) (snapshot : Snapshot) (options : Options) :
    Finished RunError Plan (Cache × Unit) :=
  call.run snapshot.backend options ([], ())

theorem PlanCall.run_agrees (call : PlanCall ω) (options : Options)
    (falters : backend.Falters snapshot) (agrees : cache.Agrees snapshot) (state : σ) :
    (call.run backend options (cache, state)).state.1.Agrees snapshot := by
  rw [PlanCall.run_eq]
  exact Session.run_falters_agrees (render options) falters agrees state

/-- However often and whenever the backend is down: every planning call of an orchestrator that
accepts a plan accepts the plan over the snapshot and tells the host the same, and every call that
reports a conflict reports the conflict over the snapshot. So the first call that is accepted gives
what it would have given without the failed ones before it. -/
theorem runCalls_falters (falters : backend.Falters snapshot) (options : Options)
    (calls : List (PlanCall ω)) (agrees : cache.Agrees snapshot) (state : σ) :
    List.Forall₂ (fun call finished =>
        (∀ accepted, finished.result = .ok accepted →
          (call.freshOver snapshot options).result = .ok accepted ∧
          finished.messages = (call.freshOver snapshot options).messages) ∧
        (∀ path, finished.result = .error (.refused (.conflict path)) →
          (call.freshOver snapshot options).result = .error (.refused (.conflict path))))
      calls (runCalls backend options calls (cache, state)) := by
  induction calls generalizing cache state with
  | nil => exact .nil
  | cons call rest ih =>
    refine .cons ?_ (ih (call.run_agrees options falters agrees state) _)
    rcases call.run_falters options falters agrees state with ⟨result, messages⟩ | failed
    · unfold PlanCall.freshOver
      rw [result, messages]
      exact ⟨fun accepted ended => ⟨ended, rfl⟩, fun path ended => ended⟩
    · obtain ⟨error, blamed, ended⟩ := failed
      refine ⟨fun accepted reached => ?_, fun path reached => ?_⟩
      · rw [ended] at reached
        cases reached
      · rw [ended] at reached
        cases reached
        exact blamed.elim

/-! ## A sample -/

/-- A class with a lookup, so that planning has an id to resolve. -/
def lookupSnapshot : Snapshot :=
  { objectTypes := [.real 0 "Document", .staticList 101 "Status"]
    classes := [⟨1, "Invoice", 0, [], none, [⟨1001, false⟩]⟩]
    propertyDefs := [.lookupInto 1001 "State" 101] }

/-- Two calls run into outages, one of them while an id is resolved; the third has what it needs. -/
theorem runCalls_falters_sample :
    let call : PlanCall Memory := ⟨Memory.writer, {}, false⟩
    let outages : List Outage := [⟨.verify, some 1⟩, ⟨.classes, some 1⟩]
    let finished :=
      runCalls lookupSnapshot.backend.interrupted {} [call, call, call] ([], outages, ())
    finished.map (·.result.isOk) = [false, false, true] ∧
      ∀ last ∈ finished.getLast?, ∀ accepted, last.result = .ok accepted →
        (call.freshOver lookupSnapshot {}).result = .ok accepted := by
  intro call outages finished
  refine ⟨by decide +kernel, ?_⟩
  have each := runCalls_falters (Backend.interrupted_falters lookupSnapshot) {} [call, call, call]
    (Cache.agrees_empty lookupSnapshot) (outages, ())
  simp only [finished, runCalls, List.forall₂_cons, List.getLast?_cons_cons, List.getLast?_singleton,
    Option.mem_some_iff] at each ⊢
  obtain ⟨-, -, ⟨accepts, -⟩, -⟩ := each
  rintro last rfl accepted ended
  exact (accepts accepted ended).1

end VaultModels.Project
