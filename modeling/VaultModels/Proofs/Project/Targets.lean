import VaultModels.Proofs.Project.PlanCall
import VaultModels.Proofs.Project.Rendering
import VaultModels.Proofs.Project.Walk

/-!
# What is in an accepted plan

A plan accepted over a snapshot has, for each target, the first artifact of the inventory that goes
there, and nothing else. Which actions it takes is not the subject here.
-/
namespace VaultModels.Project

open Model Schema

/-! ## The first artifact of each target -/

theorem find?_foldl_addFirst (artifacts kept : List Artifact) (path : Path) :
    (artifacts.foldl addFirst kept).find? (·.path.same path) =
      (kept ++ artifacts).find? (·.path.same path) := by
  induction artifacts generalizing kept with
  | nil => rw [List.append_nil, List.foldl_nil]
  | cons artifact rest ih =>
    rw [List.foldl_cons, ih, addFirst]
    split
    next taken =>
      obtain ⟨earlier, member, equal⟩ := List.any_eq_true.mp taken
      rw [List.find?_append, List.find?_append]
      cases found : kept.find? (·.path.same path) with
      | some first => rfl
      | none =>
        -- the artifact that is left out is no match, or the earlier one were a match too
        have differs : ¬ artifact.path.same path := by
          rw [← Path.same_congr equal]
          exact List.find?_eq_none.mp found earlier member
        rw [List.find?_cons_of_neg (by exact differs)]
    next => rw [List.append_assoc, List.singleton_append]

/-- Leaving out later artifacts for a target does not change what is found for it. -/
theorem find?_firstOfEachTarget (artifacts : List Artifact) (path : Path) :
    (firstOfEachTarget artifacts).find? (·.path.same path) =
      artifacts.find? (·.path.same path) := find?_foldl_addFirst artifacts [] path

theorem DistinctTargets.find?_of_mem {artifacts : List Artifact}
    (distinct : DistinctTargets artifacts) {artifact : Artifact} (member : artifact ∈ artifacts) :
    artifacts.find? (·.path.same artifact.path) = some artifact := by
  obtain ⟨front, back, rfl⟩ := List.append_of_mem member
  have fresh := (List.pairwise_append.mp distinct).2.2
  have before : front.find? (·.path.same artifact.path) = none := by
    rw [List.find?_eq_none]
    intro earlier inside
    simp [fresh earlier inside artifact List.mem_cons_self]
  rw [List.find?_append, before, List.find?_cons_of_pos (by exact Path.same_refl _)]
  rfl

/-! ## Accepted plans -/

theorem Plan.get?_eq_some {plan : Plan} {path : Path} {artifact : Artifact}
    (found : plan.get? path = some artifact) :
    artifact ∈ plan.artifacts.map (·.artifact) ∧ artifact.path.same path :=
  ⟨List.mem_of_find?_eq_some found,
    List.find?_some (p := fun one : Artifact => one.path.same path) found⟩

section

variable {ω : Type} {call : PlanCall ω} {snapshot : Snapshot} {options : Options} {cache : Cache}
  {accepted : Plan} (agrees : cache.Agrees snapshot)
  (ended : (call.run snapshot.backend options (cache, ())).result = .ok accepted)

include agrees ended

theorem PlanCall.accepted_artifacts :
    accepted.artifacts.map (·.artifact) = firstOfEachTarget (snapshot.inventory options) := by
  have made := PlanCall.rendered_of_accepted agrees ended
  rw [render_over] at made
  exact (withFault_eq_ok.mp made).2.symm

/-- Nothing on the walk of an accepted plan dangles. -/
theorem PlanCall.clear_of_accepted :
    snapshot.walkedAssociations.findSome? snapshot.fault? = none := by
  have made := PlanCall.rendered_of_accepted agrees ended
  rw [render_over] at made
  exact (withFault_eq_ok.mp made).1

/-- At each path the plan has what the inventory has first. -/
theorem PlanCall.get?_accepted (path : Path) :
    accepted.get? path = (snapshot.inventory options).find? (·.path.same path) := by
  rw [Plan.get?, PlanCall.accepted_artifacts agrees ended, find?_firstOfEachTarget]

theorem PlanCall.mem_accepted (artifact : Artifact) :
    artifact ∈ accepted.artifacts.map (·.artifact) ↔
      accepted.get? artifact.path = some artifact := by
  have made := PlanCall.rendered_of_accepted agrees ended
  exact ⟨(Rendered.of_run made).distinct.find?_of_mem, List.mem_of_find?_eq_some⟩

/-- Nothing is planned that is not in the inventory. -/
theorem PlanCall.inventory_of_accepted {artifact : Artifact}
    (planned : artifact ∈ accepted.artifacts.map (·.artifact)) :
    artifact ∈ snapshot.inventory options := by
  rw [PlanCall.mem_accepted agrees ended, PlanCall.get?_accepted agrees ended] at planned
  exact List.mem_of_find?_eq_some planned

end

end VaultModels.Project
