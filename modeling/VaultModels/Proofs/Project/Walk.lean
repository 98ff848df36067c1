import VaultModels.Project.Rendering
import VaultModels.Proofs.Model.Emission
import VaultModels.Proofs.Path.Order

/-!
# What a rendering consists of

The walk hands placed artifacts to its visitor, the shared wrapper first, so what the visitor keeps
about placed artifacts holds of the whole walk. For `keepFirst` that is: every artifact is placed,
no two have one target, and the wrapper stands in front. Held for every backend; which other
artifacts there are depends on the answers and is left open.
-/
namespace VaultModels.Project

open Model Schema

section

variable {α : Type} {options : Options} {visit : Visitor α} {kept : α → Prop}

/-- The visitor keeps `kept` with every placed artifact and sends no progress line. -/
def Visits (options : Options) (visit : Visitor α) (kept : α → Prop) : Prop :=
  ∀ seen artifact, kept seen → artifact.IsPlaced options →
    (visit seen artifact).Ensures (·.isProgress = false) kept

theorem walkClasses_ensures (visits : Visits options visit kept) (classes : List ObjectClass)
    {seen : α} (start : kept seen) :
    (walkClasses options visit seen classes).Ensures (·.isProgress = false) kept := by
  induction classes generalizing seen with
  | nil => exact .done start
  | cons cls rest ih =>
    refine (classFile_emits options cls).bind fun file placed => ?_
    refine (visits seen file start placed).bind fun next reached => ?_
    dsimp only
    split
    · exact (visits next _ reached (classPartial_placed options cls)).bind fun last held => ih held
    · exact ih reached

theorem walkTypes_ensures (visits : Visits options visit kept) (types : List ObjectType)
    {seen : α} (start : kept seen) :
    (walkTypes options visit seen types).Ensures (·.isProgress = false) kept := by
  induction types generalizing seen with
  | nil => exact .done start
  | cons type rest ih =>
    refine (typeBase_emits options type).bind fun base placed => ?_
    refine (visits seen base start placed).bind fun next reached => ?_
    refine (Session.tells_fetch _ _).bind fun classes _ => ?_
    exact (walkClasses_ensures visits classes reached).bind fun last held => ih held

theorem walkLists_ensures (visits : Visits options visit kept) (lists : List ObjectType)
    {seen : α} (start : kept seen) :
    (walkLists options visit seen lists).Ensures (·.isProgress = false) kept := by
  induction lists generalizing seen with
  | nil => exact .done start
  | cons list rest ih =>
    unfold walkLists
    split
    · exact ih start
    · refine (valueListEnum_emits options list).bind fun items placed => ?_
      exact (visits seen items start placed).bind fun next reached => ih reached

/-- It is enough that the visitor takes the wrapper first and any placed artifact later. -/
theorem walk_ensures {start : α} (visits : Visits options visit kept)
    (first : (visit start (sharedWrapper options)).Ensures (·.isProgress = false) kept) :
    (walk options visit start).Ensures (·.isProgress = false) kept := by
  have made : (wrapper options).Ensures (·.isProgress = false) (· = sharedWrapper options) := by
    rw [wrapper_eq]
    exact .tell rfl (.done rfl)
  refine made.bind fun shared same => ?_
  subst same
  refine first.bind fun seen reached => ?_
  refine (Session.tells_fetch _ _).bind fun properties _ => ?_
  refine (propertyEnum_emits options properties).bind fun enum placed => ?_
  refine (visits seen enum reached placed).bind fun next held => ?_
  refine (Session.tells_fetch _ _).bind fun types _ => ?_
  refine (walkTypes_ensures visits types held).bind fun last walked => ?_
  exact (Session.tells_fetch _ _).bind fun lists _ => walkLists_ensures visits lists walked

end

/-! ## The first artifact of each target -/

/-- No two artifacts go to the same place. -/
def DistinctTargets (artifacts : List Artifact) : Prop :=
  artifacts.Pairwise fun earlier later => earlier.path.same later.path = false

/-- What every finished rendering looks like. -/
structure Rendered (options : Options) (artifacts : List Artifact) : Prop where
  placed : ∀ artifact ∈ artifacts, artifact.IsPlaced options
  distinct : DistinctTargets artifacts
  first : artifacts.head? = some (sharedWrapper options)

theorem Rendered.append {options : Options} {artifacts : List Artifact} {artifact : Artifact}
    (rendered : Rendered options artifacts) (placed : artifact.IsPlaced options)
    (fresh : ∀ earlier ∈ artifacts, earlier.path.same artifact.path = false) :
    Rendered options (artifacts ++ [artifact]) where
  placed := by
    intro one member
    rcases List.mem_append.mp member with old | new
    · exact rendered.placed one old
    · rw [List.mem_singleton.mp new]
      exact placed
  distinct := by
    refine List.pairwise_append.mpr ⟨rendered.distinct, List.pairwise_singleton _ _, ?_⟩
    intro earlier member later last
    rw [List.mem_singleton.mp last]
    exact fresh earlier member
  first := by
    rw [List.head?_append, rendered.first]
    rfl

theorem keepFirst_visits (options : Options) : Visits options keepFirst (Rendered options) := by
  intro kept artifact rendered placed
  unfold keepFirst
  split
  · exact .tell rfl (.done rendered)
  next fresh =>
    refine .done (rendered.append placed ?_)
    simpa using fresh

theorem render_ensures (options : Options) :
    (render options).Ensures (·.isProgress = false) (Rendered options) := by
  refine walk_ensures (keepFirst_visits options) (.done ?_)
  exact
    { placed := by simpa using sharedWrapper_placed options
      distinct := List.pairwise_singleton _ _
      first := rfl }

theorem Rendered.of_run {options : Options} {σ : Type} {backend : Backend σ} {state : σ}
    {artifacts : List Artifact}
    (made : ((render options).run backend state).result = .ok artifacts) :
    Rendered options artifacts :=
  (render_ensures options).run backend made

end VaultModels.Project
