import VaultModels.Project.Writer
import VaultModels.Proofs.Path.Order

/-!
# Reading back files

What inserting a file does to every path, and when it does nothing. No order of the list is assumed:
the laws hold of every list of files, sorted or not, with or without two entries for one place.
-/
namespace VaultModels.Project.FileMap

variable {files : FileMap} {path other : Path} {content : String}

theorem get?_insert_same (files : FileMap) (path : Path) (content : String) :
    (files.insert path content).get? path = some content := by
  induction files with
  | nil => simp [insert, get?]
  | cons entry rest ih =>
    rcases entry with ⟨head, old⟩
    simp only [insert]
    split
    next equal => simp [get?, equal]
    next different =>
      split
      · simp [get?]
      · simp [get?, different, ih]

theorem get?_insert_other (different : path.same other = false) (files : FileMap)
    (content : String) : (files.insert path content).get? other = files.get? other := by
  induction files with
  | nil => simp [insert, get?, different]
  | cons entry rest ih =>
    rcases entry with ⟨head, old⟩
    simp only [insert]
    split
    next equal =>
      have elsewhere : head.same other = false := by rw [Path.same_congr equal, different]
      simp [get?, elsewhere]
    next =>
      split
      · simp [get?, different]
      · simp [get?, ih]

/-- Spellings of one place read the same. -/
theorem get?_congr (equal : path.same other) (files : FileMap) :
    files.get? path = files.get? other := by
  induction files with
  | nil => rfl
  | cons entry rest ih =>
    have alike : entry.1.same path = entry.1.same other := by
      rw [Path.same_comm _ path, Path.same_comm _ other, Path.same_congr equal]
    simp [get?, alike, ih]

/-- Inserting changes what is read at one place only. -/
theorem get?_insert (files : FileMap) (path other : Path) (content : String) :
    (files.insert path content).get? other =
      if path.same other then some content else files.get? other := by
  split
  next equal => rw [← get?_congr equal, get?_insert_same]
  next different => exact get?_insert_other (by simpa using different) files content

theorem has_insert (files : FileMap) (path other : Path) (content : String) :
    (files.insert path content).has other = (path.same other || files.has other) := by
  simp only [has, get?_insert]
  split <;> simp_all

/-- Writing this content to this path is a step that leaves no trace. -/
def Holds (files : FileMap) (path : Path) (content : String) : Prop :=
  files.insert path content = files

theorem holds_insert (files : FileMap) (path : Path) (content : String) :
    (files.insert path content).Holds path content := by
  induction files with
  | nil => simp [Holds, insert]
  | cons entry rest ih =>
    rcases entry with ⟨head, old⟩
    simp only [insert]
    split
    next equal => simp [Holds, insert, equal]
    next different =>
      split
      · simp [Holds, insert]
      next later =>
        simp only [Holds, insert, different, later, Bool.false_eq_true, if_false]
        rw [show (insert rest path content).insert path content = insert rest path content from ih]

theorem Holds.get? (held : files.Holds path content) : files.get? path = some content := by
  rw [← held]
  exact get?_insert_same files path content

/-- A write elsewhere keeps a write without trace one. The new entry comes to stand behind the held
one or in front of a place where the held path would not be put: the order of paths is transitive,
so it never offers the held path an earlier place. -/
theorem Holds.insert_other (held : files.Holds path content) (different : path.same other = false)
    (more : String) : (files.insert other more).Holds path content := by
  induction files with
  | nil => simp [Holds, insert] at held
  | cons entry rest ih =>
    rcases entry with ⟨head, old⟩
    have reversed : other.same path = false := by rw [Path.same_comm, different]
    by_cases equal : head.same path
    · -- The held entry stands in front.
      simp only [Holds, insert, equal, if_true, List.cons.injEq, Prod.mk.injEq] at held
      obtain ⟨⟨-, rfl⟩, -⟩ := held
      have apart : head.same other = false := by rw [Path.same_congr equal, different]
      by_cases less : other.before head
      · have after : path.before other = false := by
          apply Path.before_asymm
          rwa [← Path.before_congr equal]
        simp [Holds, insert, apart, less, reversed, after, equal]
      · simp [Holds, insert, apart, less, equal]
    · by_cases before : path.before head
      · simp [Holds, insert, equal, before] at held
      · have tail : Holds rest path content := by
          simpa [Holds, insert, equal, before] using held
        by_cases spot : head.same other
        · simpa [Holds, insert, spot, equal, before] using tail
        · by_cases less : other.before head
          · have after : ¬ path.before other := fun first => before (Path.before_trans first less)
            simpa [Holds, insert, spot, less, reversed, after, equal, before] using tail
          · simpa [Holds, insert, spot, less, equal, before] using ih tail

end VaultModels.Project.FileMap
