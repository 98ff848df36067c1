import Mathlib.Data.List.Induction
import VaultModels.Files.FileSystem
import VaultModels.Proofs.Files.Tree

/-!
# Trees that grow

Making directories and writing files leaves every directory a directory, so whatever a path went
through stays open. Which places may be changed is said beforehand, the directories' apart from the
files'. Nothing is removed here, and nothing is held of an operation that fails.
-/
namespace VaultModels.Files

open VaultModels.Path

namespace Tree

variable {made written more : Place → Prop} {tree before between after : Tree} {place : Place}
  {path : Path} {content : String}

/-- One tree comes from the other by directories made where nothing was, at the places for that, and by
files written where no directory was, at theirs. -/
structure Grows (made written : Place → Prop) (before after : Tree) : Prop where
  working : after.working = before.working
  entries : ∀ place, after.entry? place = before.entry? place ∨
    made place ∧ before.entry? place = none ∧ after.entry? place = some .directory ∨
    written place ∧ before.entry? place ≠ some .directory ∧
      ∃ content, after.entry? place = some (.file content)

theorem Grows.refl (made written : Place → Prop) (tree : Tree) : Grows made written tree tree :=
  ⟨rfl, fun _ => .inl rfl⟩

theorem Grows.mono (grows : Grows made written before after)
    (wider : ∀ place, written place → more place) : Grows made more before after where
  working := grows.working
  entries place := (grows.entries place).imp_right (.imp_right (.imp_left (wider place)))

theorem Grows.trans (first : Grows made written before between)
    (second : Grows made written between after) : Grows made written before after where
  working := second.working.trans first.working
  entries place := by
    rcases first.entries place with same | ⟨allowed, free, directory⟩ | ⟨allowed, free, file⟩
    · rw [← same]
      exact second.entries place
    · rcases second.entries place with again | ⟨-, absent, -⟩ | ⟨-, other, -⟩
      · exact .inr (.inl ⟨allowed, free, again.trans directory⟩)
      · rw [absent] at directory
        cases directory
      · exact absurd directory other
    · obtain ⟨content, found⟩ := file
      rcases second.entries place with again | ⟨-, absent, -⟩ | ⟨-, -, later⟩
      · exact .inr (.inr ⟨allowed, free, content, again.trans found⟩)
      · rw [absent] at found
        cases found
      · exact .inr (.inr ⟨allowed, free, later⟩)

section

variable (grows : Grows made written before after)

include grows

theorem Grows.directory (there : before.entry? place = some .directory) :
    after.entry? place = some .directory := by
  rcases grows.entries place with same | ⟨-, -, directory⟩ | ⟨-, other, -⟩
  · exact same.trans there
  · exact directory
  · exact absurd there other

theorem Grows.opens {segments : List String} (opens : before.Opens place segments) :
    after.Opens place segments := fun part front => grows.directory (opens part front)

theorem Grows.start (path : Path) : after.start path = before.start path := by
  rw [Tree.start, Tree.start, grows.working]

theorem Grows.placeOf (path : Path) : after.placeOf path = before.placeOf path := by
  rw [Tree.placeOf, Tree.placeOf, grows.start]

theorem Grows.unchanged (unmade : ¬ made place) (unwritten : ¬ written place) :
    after.entry? place = before.entry? place := by
  rcases grows.entries place with same | ⟨allowed, -⟩ | ⟨allowed, -⟩
  · exact same
  · exact absurd allowed unmade
  · exact absurd allowed unwritten

/-- A file stays as it is, and where it is, unless it is written again. -/
theorem Grows.locate_file (located : before.locate path = .ok (place, .file content))
    (unwritten : ¬ written place) : after.locate path = .ok (place, .file content) := by
  obtain ⟨_, used, -⟩ := bind_eq_ok.mp located
  obtain ⟨front, last, rfl, cut⟩ := usable_eq_ok used
  obtain ⟨opens, fits, rfl, found⟩ := (locate_eq_ok used cut).mp located
  refine (locate_eq_ok used cut).mpr ⟨?_, fits, (grows.placeOf path).symm, ?_⟩
  · rw [grows.start]
    exact grows.opens opens
  · rcases grows.entries (before.placeOf path) with same | ⟨-, free, -⟩ | ⟨allowed, -⟩
    · exact same.trans found
    · rw [free] at found
      cases found
    · exact absurd allowed unwritten

end

/-! ## Operations -/

theorem grows_makeDirectory (done : before.makeDirectory path = .ok after)
    (allowed : made (before.placeOf path)) : Grows made written before after := by
  obtain ⟨free, rfl⟩ := makeDirectory_eq_ok done
  refine ⟨rfl, fun place => ?_⟩
  rw [entry?_set]
  split
  next here =>
    rw [here.1]
    exact .inr (.inl ⟨allowed, free, rfl⟩)
  next => exact .inl rfl

theorem grows_write (done : before.write path content = .ok after)
    (allowed : written (before.placeOf path)) : Grows made written before after := by
  obtain ⟨free, rfl, -⟩ := write_eq_ok done
  refine ⟨rfl, fun place => ?_⟩
  rw [entry?_set]
  split
  next here =>
    rw [here.1]
    exact .inr (.inr ⟨allowed, free, content, rfl⟩)
  next => exact .inl rfl

/-- What has been written is there to be read. -/
theorem locate_of_write (done : before.write path content = .ok after) :
    after.locate path = .ok (before.placeOf path, .file content) := by
  have grows : Grows (fun _ => False) (fun place => place = before.placeOf path) before after :=
    grows_write done rfl
  obtain ⟨free, rfl, front, last, used, cut, opens, fits⟩ := write_eq_ok done
  have below : before.placeOf path ≠ [] := by
    intro top
    rw [top] at free
    exact free rfl
  refine (locate_eq_ok used cut).mpr ⟨?_, fits, (grows.placeOf path).symm, ?_⟩
  · rw [grows.start]
    exact grows.opens opens
  · rw [entry?_set, if_pos ⟨rfl, below⟩]

theorem read_of_locate (located : tree.locate path = .ok (place, .file content)) :
    tree.read path = .ok content := bind_eq_ok.mpr ⟨_, located, rfl⟩

/-! ## Settled paths -/

/-- Everything in the tree is in a directory. -/
def Whole (tree : Tree) : Prop :=
  ∀ place name, (tree.entry? (place ++ [name])).isSome → tree.entry? place = some .directory

/-- From a directory that is there the path goes on by names alone, so making directories never
changes where it leads or opens it upwards. -/
def Settled (tree : Tree) (path : Path) : Prop :=
  ∃ front back, path.steps = front ++ back ∧ tree.Opens (tree.start path) front ∧ ".." ∉ back

theorem Whole.above (whole : tree.Whole) {base : Place} (front : base <+: place)
    (proper : base ≠ place) (there : (tree.entry? place).isSome) :
    tree.entry? base = some .directory := by
  induction place using List.reverseRecOn with
  | nil => exact absurd (List.prefix_nil.mp front) proper
  | append_singleton init name ih =>
    have parent := whole init name there
    rcases List.prefix_concat_iff.mp front with same | inside
    · exact absurd same proper
    · by_cases here : base = init
      · rw [here, parent]
      · exact ih inside here (by rw [parent]; rfl)

theorem steps_not_idle (path : Path) : ∀ step ∈ path.steps, isIdle step = false := by
  intro step member
  obtain ⟨segment, kept, rfl⟩ := List.mem_map.mp member
  rw [isIdle_ofList]
  simpa using (List.mem_filter.mp kept).2

theorem Settled.join {root relative : Path} (settled : tree.Settled root)
    (inside : relative.isAbsolute = false) (down : ".." ∉ relative.steps) :
    tree.Settled (root.join relative) := by
  obtain ⟨front, back, cut, opens, names⟩ := settled
  refine ⟨front, back ++ relative.steps, ?_, ?_, by simp [names, down]⟩
  · rw [steps_join root inside, cut, List.append_assoc]
  · rwa [Tree.start, isAbsolute_join root inside]

theorem Settled.grow (settled : before.Settled path) (grows : Grows made written before after) :
    after.Settled path := by
  obtain ⟨front, back, cut, opens, names⟩ := settled
  exact ⟨front, back, cut, by rw [grows.start]; exact grows.opens opens, names⟩

theorem opens_concat {segments : List String} {last : String} :
    tree.Opens place (segments ++ [last]) ↔
      tree.Opens place segments ∧
        tree.entry? (walk place (segments ++ [last])) = some .directory := by
  constructor
  · intro opens
    exact ⟨fun part front => opens part (front.trans (List.prefix_append _ _)),
      opens _ (List.prefix_refl _)⟩
  · rintro ⟨opens, there⟩ part front
    rcases List.prefix_concat_iff.mp front with rfl | inside
    · exact there
    · exact opens part inside

/-- A directory that is there is settled. -/
theorem settled_of_isDirectory (there : tree.isDirectory path) : tree.Settled path := by
  unfold isDirectory at there
  split at there
  next place located =>
    obtain ⟨_, used, -⟩ := bind_eq_ok.mp located
    obtain ⟨front, last, rfl, cut⟩ := usable_eq_ok used
    obtain ⟨opens, -, rfl, found⟩ := (locate_eq_ok used cut).mp located
    rw [placeOf_eq cut] at found
    refine ⟨path.steps, [], (List.append_nil _).symm, ?_, List.not_mem_nil⟩
    rw [cut, opens_filter]
    exact opens_concat.mpr ⟨opens, found⟩
  · cases there

theorem whole_of_entries
    (each : ∀ entry ∈ tree.entries, tree.entry? entry.1.dropLast = some .directory) :
    tree.Whole := by
  intro place name there
  have below : place ++ [name] ≠ [] := by simp
  unfold entry? at there
  rw [if_neg below] at there
  obtain ⟨entry, found⟩ := Option.isSome_iff_exists.mp there
  obtain ⟨front, back, split, -⟩ := List.lookup_eq_some_iff.mp found
  have parent := each (place ++ [name], entry) (by simp [split])
  rwa [List.dropLast_concat] at parent

/-- What stands on the way of a settled path is a directory that is there, or above its place. -/
theorem Settled.on_the_way (settled : tree.Settled path) {part : List String}
    (front : part <+: path.steps) :
    tree.entry? (walk (tree.start path) part) = some .directory ∨
      walk (tree.start path) part <+: tree.placeOf path ∧
        (walk (tree.start path) part = tree.placeOf path → part = path.steps) := by
  obtain ⟨lead, back, cut, opens, names⟩ := settled
  rw [cut] at front
  rcases List.prefix_or_prefix_of_prefix front (List.prefix_append lead back) with inLead | beyond
  · exact .inl (opens part inLead)
  · obtain ⟨down, rfl⟩ := beyond
    have lower : down <+: back := (List.prefix_append_right_inj lead).mp front
    have plain : ∀ name ∈ back, isIdle name = false := fun name member =>
      steps_not_idle path name (cut ▸ List.mem_append_right _ member)
    have ends : walk (tree.start path) (lead ++ down) = walk (tree.start path) lead ++ down := by
      rw [walk, List.foldl_append]
      exact walk_names (fun name member => plain name (lower.subset member))
        (fun member => names (lower.subset member)) _
    have whole : tree.placeOf path = walk (tree.start path) lead ++ back := by
      rw [placeOf, cut, walk, List.foldl_append]
      exact walk_names plain names _
    right
    rw [ends, whole, cut]
    exact ⟨(List.prefix_append_right_inj _).mpr lower,
      fun same => congrArg (lead ++ ·) (List.append_cancel_left same)⟩

/-- Where the place of a settled path is as it was, one gets there no sooner than before. -/
theorem Grows.has_eq_false (grows : Grows made written before after) (whole : before.Whole)
    (settled : before.Settled path)
    (same : after.entry? (before.placeOf path) = before.entry? (before.placeOf path))
    (absent : before.has path = false) : after.has path = false := by
  rw [← Bool.not_eq_true] at absent ⊢
  refine mt (fun there => ?_) absent
  cases located : after.locate path with
  | error error => rw [has, located] at there; cases there
  | ok reached =>
    obtain ⟨_, used, -⟩ := bind_eq_ok.mp located
    obtain ⟨front, last, rfl, cut⟩ := usable_eq_ok used
    obtain ⟨opens, fits, place, found⟩ := (locate_eq_ok used cut).mp located
    rw [grows.placeOf] at place
    rw [grows.start] at opens
    rw [place, same] at found
    have begun : before.Opens (before.start path) front := by
      intro part inFront
      have onTheWay : part.filter (!isIdle ·) <+: path.steps := by
        rw [cut]
        exact (inFront.trans (List.prefix_append front _)).filter _
      have open_after := opens part inFront
      rw [← walk_filter] at open_after ⊢
      rcases settled.on_the_way onTheWay with there | ⟨above, -⟩
      · exact there
      · by_cases whole_way : walk (before.start path) (part.filter (!isIdle ·)) = before.placeOf path
        · rw [whole_way] at open_after ⊢
          rw [← same, open_after]
        · exact whole.above above whole_way (by rw [found]; rfl)
    rw [has, (locate_eq_ok used cut).mpr ⟨begun, fits, rfl, found⟩]
    rfl

/-- A directory is made above the place of a settled path if its own path leads a part of the way. -/
theorem Settled.makeDirectory_above (settled : tree.Settled path) {parent : Path}
    (rooted : parent.isAbsolute = path.isAbsolute) (front : parent.steps <+: path.steps)
    (proper : parent.steps ≠ path.steps) (done : tree.makeDirectory parent = .ok after) :
    tree.placeOf parent <+: tree.placeOf path ∧ tree.placeOf parent ≠ tree.placeOf path := by
  have starts : tree.start parent = tree.start path := by rw [start, start, rooted]
  obtain ⟨free, -⟩ := makeDirectory_eq_ok done
  rw [placeOf, starts] at free ⊢
  rcases settled.on_the_way front with there | ⟨above, only⟩
  · rw [there] at free
    cases free
  · exact ⟨above, fun same => proper (only same)⟩

end Tree

/-! ## Directories on the way -/

theorem ancestors_steps {fuel : Nat} {path parent : Path} (member : parent ∈ ancestors fuel path) :
    parent.isAbsolute = path.isAbsolute ∧ parent.steps <+: path.steps := by
  induction fuel generalizing path with
  | zero => cases member
  | succ fuel ih =>
    unfold ancestors at member
    split at member
    · cases member
    next next above =>
      obtain ⟨steps, rooted⟩ := steps_parent above
      rcases List.mem_cons.mp member with rfl | later
      · exact ⟨rfl, List.prefix_refl _⟩
      · obtain ⟨start, front⟩ := ih later
        rw [steps] at front
        exact ⟨start.trans rooted, front.trans (List.dropLast_prefix _)⟩

/-- What holds of a tree holds of the one that the action leaves. -/
def Keeps {α : Type} (kept : Tree → Prop) (action : StateM Tree α) : Prop :=
  ∀ tree, kept tree → kept (action.run tree).2

section

variable {α β : Type} {kept : Tree → Prop} {path : Path}

theorem keeps_pure (value : α) : Keeps kept (pure value) := fun _ held => held

theorem Keeps.bind {first : StateM Tree α} {next : α → StateM Tree β} (keeps : Keeps kept first)
    (later : ∀ value, Keeps kept (next value)) : Keeps kept (first >>= next) :=
  fun tree held => later _ _ (keeps tree held)

theorem makeDirectory_keeps
    (keeps : ∀ before after, kept before → before.makeDirectory path = .ok after → kept after) :
    Keeps kept (Tree.fileSystem.makeDirectory path) := by
  intro tree held
  change kept (Tree.commit (tree.makeDirectory path) tree).2
  cases done : tree.makeDirectory path with
  | error error => exact held
  | ok after => exact keeps tree after held done

theorem ensureDirectory_keeps (makes : Keeps kept (Tree.fileSystem.makeDirectory path)) :
    Keeps kept (Tree.fileSystem.ensureDirectory path) := by
  refine makes.bind fun result => ?_
  split
  · refine Keeps.bind (fun _ held => held) fun isThere => ?_
    split <;> exact keeps_pure _
  · exact keeps_pure _

/-- Creating directories keeps what each of them keeps, whether all of them come about or not. -/
theorem ensureChain_keeps {paths : List Path}
    (makes : ∀ path ∈ paths, Keeps kept (Tree.fileSystem.makeDirectory path)) :
    Keeps kept (Tree.fileSystem.ensureChain paths) := by
  induction paths with
  | nil => exact keeps_pure _
  | cons path parents ih =>
    rw [List.forall_mem_cons] at makes
    have ensures := ensureDirectory_keeps makes.1
    refine ensures.bind fun result => ?_
    split
    · refine (ih makes.2).bind fun chain => ?_
      split
      · exact ensures
      · exact keeps_pure _
    · exact keeps_pure _

end

end VaultModels.Files
