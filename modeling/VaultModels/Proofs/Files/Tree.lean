import VaultModels.Files.Tree
import VaultModels.Proofs.Path.Steps

/-!
# Where paths lead in a file tree

Going by its steps alone a path leads to one place, whatever the tree holds; the tree only settles
whether one gets there. So an operation that succeeds is known by the place of its path. Why another one
fails is not held here.
-/
namespace VaultModels.Files

open VaultModels.Path

namespace Tree

variable {tree : Tree} {place next : Place}

/-! ## Entries -/

@[simp] theorem entry?_nil (tree : Tree) : tree.entry? [] = some .directory := rfl

theorem lookup_cons_if (head other : Place) (entry : Entry) (rest : List (Place × Entry)) :
    ((head, entry) :: rest).lookup other =
      if other = head then some entry else rest.lookup other := by
  rw [List.lookup_cons]
  by_cases same : other = head
  · rw [if_pos same, beq_iff_eq.mpr same]
  · rw [if_neg same, beq_eq_false_iff_ne.mpr same]

theorem lookup_setEntries (entries : List (Place × Entry)) (place other : Place) (entry : Entry) :
    (setEntries entries place entry).lookup other =
      if other = place then some entry else entries.lookup other := by
  induction entries with
  | nil => rw [setEntries, lookup_cons_if]
  | cons head rest ih =>
    rcases head with ⟨own, old⟩
    unfold setEntries
    split
    next found =>
      rw [lookup_cons_if, lookup_cons_if, found]
      split <;> rfl
    next different =>
      rw [lookup_cons_if, lookup_cons_if, ih]
      split
      next same => rw [if_neg (same ▸ different)]
      next => rfl

/-- One place is changed, unless it is the top. -/
theorem entry?_set (tree : Tree) (place other : Place) (entry : Entry) :
    Tree.entry? (tree.set place entry) other =
      if other = place ∧ other ≠ [] then some entry else tree.entry? other := by
  unfold entry? set
  by_cases top : other = []
  · simp [top]
  · simp [top, lookup_setEntries]

/-! ## Steps -/

/-- One step down by its name alone. -/
def advance (place : Place) (segment : String) : Place :=
  if segment = "" ∨ segment = "." then place
  else if segment = ".." then place.dropLast
  else place ++ [segment]

def walk (place : Place) (segments : List String) : Place := segments.foldl advance place

/-- The name is not too long to be looked up. -/
def Fits (segment : String) : Prop := segment.utf8ByteSize ≤ nameLimit

instance (segment : String) : Decidable (Fits segment) := inferInstanceAs (Decidable (_ ≤ _))

/-- Everything on the way is a directory, the beginning and the end included. -/
def Opens (tree : Tree) (place : Place) (segments : List String) : Prop :=
  ∀ part, part <+: segments → tree.entry? (walk place part) = some .directory

theorem step_eq_ok {segment : String} :
    tree.step place segment = .ok next ↔
      tree.entry? place = some .directory ∧ Fits segment ∧ next = advance place segment := by
  have short : segment = "" ∨ segment = "." ∨ segment = ".." → Fits segment := by
    rintro (rfl | rfl | rfl) <;> decide
  unfold step advance
  cases tree.entry? place with
  | none => simp
  | some entry =>
    cases entry with
    | file content => simp
    | directory =>
      dsimp only
      split
      next idle =>
        have fits := short (idle.imp_right .inl)
        simp [fits, eq_comm]
      next =>
        split
        next up =>
          have fits := short (.inr (.inr up))
          simp [fits, eq_comm]
        next =>
          split
          next long =>
            have unfit : ¬ Fits segment := Nat.not_le.mpr long
            simp [unfit]
          next fits =>
            have fits : Fits segment := Nat.not_lt.mp fits
            simp [fits, eq_comm]

theorem opens_nil : tree.Opens place [] ↔ tree.entry? place = some .directory := by
  simp [Opens, walk]

theorem opens_cons {segment : String} {rest : List String} :
    tree.Opens place (segment :: rest) ↔
      tree.entry? place = some .directory ∧ tree.Opens (advance place segment) rest := by
  constructor
  · intro opens
    refine ⟨opens [] (List.nil_prefix), fun part front => ?_⟩
    exact opens (segment :: part) (List.cons_prefix_cons.mpr ⟨rfl, front⟩)
  · rintro ⟨here, later⟩ part front
    cases part with
    | nil => exact here
    | cons first part =>
      obtain ⟨rfl, back⟩ := List.cons_prefix_cons.mp front
      exact later part back

theorem bind_eq_ok {ε α β : Type} {first : Except ε α} {later : α → Except ε β} {value : β} :
    (first >>= later) = .ok value ↔ ∃ between, first = .ok between ∧ later between = .ok value := by
  cases first with
  | error error => exact iff_of_false (by rintro ⟨⟩) (by rintro ⟨_, ⟨⟩, -⟩)
  | ok between => exact ⟨fun ended => ⟨between, rfl, ended⟩, by rintro ⟨_, ⟨⟩, ended⟩; exact ended⟩

theorem follow_concat {front : List String} {last : String} :
    tree.follow place (front ++ [last]) =
      (tree.follow place front >>= fun reached => tree.step reached last) := by
  induction front generalizing place with
  | nil =>
    change (tree.step place last >>= Except.ok) = tree.step place last
    cases tree.step place last <;> rfl
  | cons segment rest ih =>
    rw [List.cons_append, follow, follow]
    cases tree.step place segment with
    | error error => rfl
    | ok reached => exact ih

theorem follow_cons_eq_ok {segment : String} {rest : List String} :
    tree.follow place (segment :: rest) = .ok next ↔
      tree.entry? place = some .directory ∧ Fits segment ∧
        tree.follow (advance place segment) rest = .ok next := by
  rw [follow, bind_eq_ok]
  simp only [step_eq_ok]
  constructor
  · rintro ⟨_, ⟨here, fits, rfl⟩, later⟩
    exact ⟨here, fits, later⟩
  · rintro ⟨here, fits, later⟩
    exact ⟨_, ⟨here, fits, rfl⟩, later⟩

/-- Every segment but the last is followed from a directory into a directory. -/
theorem follow_eq_ok {front : List String} {last : String} :
    tree.follow place (front ++ [last]) = .ok next ↔
      tree.Opens place front ∧ (∀ segment ∈ front ++ [last], Fits segment) ∧
        next = walk place (front ++ [last]) := by
  induction front generalizing place with
  | nil =>
    rw [List.nil_append, follow_cons_eq_ok, opens_nil, List.forall_mem_singleton, follow,
      Except.ok.injEq, eq_comm (a := advance place last)]
    rfl
  | cons segment rest ih =>
    rw [List.cons_append, follow_cons_eq_ok, opens_cons, List.forall_mem_cons, ih, walk, walk,
      List.foldl_cons]
    constructor
    · rintro ⟨here, first, later, fits, reached⟩
      exact ⟨⟨here, later⟩, ⟨first, fits⟩, reached⟩
    · rintro ⟨⟨here, later⟩, ⟨first, fits⟩, reached⟩
      exact ⟨here, first, later, fits, reached⟩

/-! ## Idle segments -/

/-- The segment leads nowhere. -/
def isIdle (segment : String) : Bool := segment == "" || segment == "."

theorem isIdle_ofList (segment : List Char) : isIdle (String.ofList segment) = isFiller segment := by
  have spelled : ∀ text : String, (String.ofList segment == text) = (segment == text.toList) := by
    intro text
    rw [Bool.eq_iff_iff, beq_iff_eq, beq_iff_eq, ← String.toList_inj, String.toList_ofList]
  rw [isIdle, spelled, spelled]
  rfl

theorem advance_idle {segment : String} (idle : isIdle segment) : advance place segment = place := by
  have stays : segment = "" ∨ segment = "." := by simpa [isIdle] using idle
  rw [advance, if_pos stays]

/-- Idle segments have no part in where a walk ends. -/
theorem walk_filter (place : Place) (segments : List String) :
    walk place (segments.filter (!isIdle ·)) = walk place segments := by
  induction segments generalizing place with
  | nil => rfl
  | cons segment rest ih =>
    have later := ih (advance place segment)
    cases idle : isIdle segment with
    | true =>
      rw [List.filter_cons_of_neg (by simp [idle]), ih, walk, walk, List.foldl_cons,
        advance_idle idle]
    | false =>
      rw [List.filter_cons_of_pos (by simp [idle])]
      exact later

theorem opens_filter {segments : List String} :
    tree.Opens place (segments.filter (!isIdle ·)) ↔ tree.Opens place segments := by
  constructor
  · intro opens part front
    rw [← walk_filter]
    exact opens _ (front.filter _)
  · intro opens part front
    obtain ⟨whole, inside, rfl⟩ := List.prefix_filter_iff.mp front
    rw [walk_filter]
    exact opens whole inside

/-- Names lead down, one by one. -/
theorem walk_names {names : List String} (down : ∀ name ∈ names, isIdle name = false)
    (never_up : ".." ∉ names) (place : Place) : walk place names = place ++ names := by
  induction names generalizing place with
  | nil => exact (List.append_nil place).symm
  | cons name rest ih =>
    rw [List.forall_mem_cons] at down
    rw [List.mem_cons, not_or] at never_up
    have moves : ¬ (name = "" ∨ name = ".") := by simpa [isIdle] using down.1
    have next : advance place name = place ++ [name] := by
      rw [advance, if_neg moves, if_neg (Ne.symm never_up.1)]
    rw [walk, List.foldl_cons, next, ← walk, ih down.2 never_up.2, List.append_assoc,
      List.singleton_append]

/-! ## Paths -/

/-- The place that a path leads to, if it leads anywhere. -/
def placeOf (tree : Tree) (path : Path) : Place := walk (tree.start path) path.steps

variable {path : Path} {segments : List String}

theorem usable_eq_ok (used : usable path = .ok segments) :
    ∃ front last, segments = front ++ [last] ∧
      path.steps = (front ++ [last]).filter (!isIdle ·) := by
  have parts : segments = (Path.segments path.text.toList).map String.ofList := by
    unfold usable at used
    repeat' split at used
    all_goals cases used
    rfl
  obtain ⟨front, last, whole⟩ : ∃ front last, segments = front ++ [last] := by
    have filled : segments ≠ [] := by
      rw [parts, ne_eq, List.map_eq_nil_iff]
      exact segments_ne_nil _
    exact ⟨_, _, (List.dropLast_concat_getLast filled).symm⟩
  refine ⟨front, last, whole, ?_⟩
  rw [← whole, parts, List.filter_map, steps]
  simp only [Function.comp_def, isIdle_ofList]

theorem placeOf_eq {front : List String} {last : String}
    (cut : path.steps = (front ++ [last]).filter (!isIdle ·)) :
    tree.placeOf path = walk (tree.start path) (front ++ [last]) := by
  rw [placeOf, cut, walk_filter]

section

variable {front : List String} {last : String} {entry : Entry}

theorem lookup_eq_ok {reached : Place} {entry : Entry} :
    (match tree.entry? reached with
      | none => .error .noSuchFile
      | some entry => .ok (reached, entry) : Except SystemError (Place × Entry)) =
        .ok (place, entry) ↔ place = reached ∧ tree.entry? reached = some entry := by
  cases tree.entry? reached <;> simp [eq_comm]

/-- A path that leads somewhere leads to its place, through directories. -/
theorem locate_eq_ok (used : usable path = .ok (front ++ [last]))
    (cut : path.steps = (front ++ [last]).filter (!isIdle ·)) :
    tree.locate path = .ok (place, entry) ↔
      tree.Opens (tree.start path) front ∧ (∀ segment ∈ front ++ [last], Fits segment) ∧
        place = tree.placeOf path ∧ tree.entry? place = some entry := by
  rw [locate, placeOf_eq cut]
  constructor
  · intro located
    obtain ⟨_, opened, located⟩ := bind_eq_ok.mp located
    cases used.symm.trans opened
    obtain ⟨_, followed, located⟩ := bind_eq_ok.mp located
    obtain ⟨opens, fits, rfl⟩ := follow_eq_ok.mp followed
    obtain ⟨rfl, found⟩ := lookup_eq_ok.mp located
    exact ⟨opens, fits, rfl, found⟩
  · rintro ⟨opens, fits, rfl, found⟩
    have followed := follow_eq_ok.mpr ⟨opens, fits, rfl⟩
    exact bind_eq_ok.mpr ⟨_, used, bind_eq_ok.mpr ⟨_, followed, lookup_eq_ok.mpr ⟨rfl, found⟩⟩⟩

/-- The directory that is to hold the last segment is asked for like any other on the way. -/
theorem target_eq_ok {start parent : Place} {name : String} :
    tree.target start (front ++ [last]) = .ok (parent, name) ↔
      tree.Opens start front ∧ (∀ segment ∈ front, Fits segment) ∧ parent = walk start front ∧
        name = last := by
  have fits : (∀ segment ∈ front ++ [""], Fits segment) ↔ ∀ segment ∈ front, Fits segment := by
    have empty : Fits "" := by decide
    simp [or_imp, forall_and, empty]
  have ends : walk start (front ++ [""]) = walk start front := by
    rw [walk, List.foldl_append]
    rfl
  rw [target, List.dropLast_concat, List.getLast?_concat, Option.getD_some, ← fits, ← ends]
  constructor
  · intro given
    obtain ⟨_, followed, given⟩ := bind_eq_ok.mp given
    obtain ⟨_, stayed, given⟩ := bind_eq_ok.mp given
    cases given
    have whole := follow_concat.trans (bind_eq_ok.mpr ⟨_, followed, stayed⟩)
    obtain ⟨opens, fits, rfl⟩ := follow_eq_ok.mp whole
    exact ⟨opens, fits, rfl, rfl⟩
  · rintro ⟨opens, fits, rfl, rfl⟩
    have whole := follow_eq_ok.mpr ⟨opens, fits, rfl⟩
    obtain ⟨_, followed, stayed⟩ := bind_eq_ok.mp (follow_concat.symm.trans whole)
    exact bind_eq_ok.mpr ⟨_, followed, bind_eq_ok.mpr ⟨_, stayed, rfl⟩⟩

theorem walk_concat (place : Place) (front : List String) (last : String) :
    walk place (front ++ [last]) = advance (walk place front) last := by
  rw [walk, List.foldl_append]
  rfl

/-- A file that is written stands at the place of its path, where no directory was. -/
theorem write_eq_ok {content : String} {after : Tree}
    (stored : tree.write path content = .ok after) :
    tree.entry? (tree.placeOf path) ≠ some .directory ∧
      after = tree.set (tree.placeOf path) (.file content) ∧
      ∃ front last, usable path = .ok (front ++ [last]) ∧
        path.steps = (front ++ [last]).filter (!isIdle ·) ∧ tree.Opens (tree.start path) front ∧
        ∀ segment ∈ front ++ [last], Fits segment := by
  obtain ⟨segments, used, begun⟩ := bind_eq_ok.mp stored
  obtain ⟨front, last, rfl, cut⟩ := usable_eq_ok used
  obtain ⟨⟨parent, name⟩, aimed, checked⟩ := bind_eq_ok.mp begun
  dsimp only at checked
  split at checked
  · cases checked
  next spelled =>
    obtain ⟨whole, named⟩ := not_or.mp spelled
    rw [Decidable.not_not.mp whole] at aimed
    obtain ⟨opens, fits, rfl, rfl⟩ := target_eq_ok.mp aimed
    obtain ⟨place, stepped, ended⟩ := bind_eq_ok.mp checked
    obtain ⟨-, fitting, rfl⟩ := step_eq_ok.mp stepped
    rw [placeOf_eq cut, walk_concat]
    split at ended
    · cases ended
    next free =>
      cases ended
      refine ⟨free, rfl, front, name, used, cut, opens, ?_⟩
      simpa [or_imp, forall_and] using ⟨fits, fitting⟩

/-- A directory that is made stands at the place of its path, where nothing was. -/
theorem makeDirectory_eq_ok {after : Tree} (made : tree.makeDirectory path = .ok after) :
    tree.entry? (tree.placeOf path) = none ∧ after = tree.set (tree.placeOf path) .directory := by
  obtain ⟨segments, used, begun⟩ := bind_eq_ok.mp made
  obtain ⟨front, last, rfl, cut⟩ := usable_eq_ok used
  obtain ⟨⟨parent, name⟩, aimed, checked⟩ := bind_eq_ok.mp begun
  dsimp only at checked
  split at checked
  · cases checked
  next named =>
    have left : (dropFinalSeparators (front ++ [last])).filter (!isIdle ·) = path.steps := by
      rw [cut, dropFinalSeparators]
      exact filter_dropEnd (fun segment empty => by simp [isIdle, beq_iff_eq.mp empty]) _
    rcases List.eq_nil_or_concat (dropFinalSeparators (front ++ [last])) with nothing | something
    · rw [nothing] at aimed
      obtain ⟨_, -, below⟩ := bind_eq_ok.mp aimed
      obtain ⟨_, -, named⟩ := bind_eq_ok.mp below
      cases named
      exact absurd rfl named
    · obtain ⟨before, final, whole⟩ := something
      rw [List.concat_eq_append] at whole
      rw [whole] at aimed left
      obtain ⟨-, -, rfl, rfl⟩ := target_eq_ok.mp aimed
      obtain ⟨place, stepped, ended⟩ := bind_eq_ok.mp checked
      obtain ⟨-, -, rfl⟩ := step_eq_ok.mp stepped
      rw [placeOf_eq left.symm, walk_concat]
      split at ended
      · cases ended
      next free =>
        cases ended
        exact ⟨by simpa using free, rfl⟩

end

end Tree

end VaultModels.Files
