import VaultModels.Model.Options
import VaultModels.Proofs.Name.Identifier
import VaultModels.Proofs.Path.Order
import VaultModels.Proofs.Path.Segments

/-!
# Paths of generated files

The components of `modelPath` and `partialPath` for a valid stem. The extension is arbitrary text: it
may hold separators, and then the file lies deeper. Its own dot keeps the stem's component apart
from `Partials`, whatever the extension is. So two files go to one place only if they are of one sort
and have one stem.
-/
namespace VaultModels

/-- Below the folder of hand-editable files. -/
def Path.InPartials (path : Path) : Prop :=
  path.components.take 2 = [.name "Models", .name "Partials"]

instance (path : Path) : Decidable path.InPartials :=
  inferInstanceAs (Decidable (path.components.take 2 = [.name "Models", .name "Partials"]))

namespace Model.Options

open VaultModels.Path

/-- The stem's component: the stem, a dot and the extension up to its first separator. -/
def leaf (options : Options) (stem : String) : List Char :=
  stem.toList ++ '.' :: (segments options.extension.toList).headD []

/-- What the extension adds behind its first separator. -/
def deeper (options : Options) : List Component :=
  (segments options.extension.toList).tail.filterMap component?

variable (options : Options) {stem : String}

theorem fileName_segments (valid : Name.isValid stem) :
    segments (options.fileName stem).text.toList =
      options.leaf stem :: (segments options.extension.toList).tail := by
  obtain ⟨first, rest, cut⟩ := List.exists_cons_of_ne_nil (segments_ne_nil options.extension.toList)
  have dotted : segments ('.' :: options.extension.toList) = ('.' :: first) :: rest := by
    simp [segments, separator, cut]
  have plain : separator ∉ stem.toList := (Name.isValid_plain valid).1
  simpa [fileName, leaf, cut] using segments_append plain dotted

theorem fileName_relative (valid : Name.isValid stem) :
    (options.fileName stem).isAbsolute = false := by
  obtain ⟨c, cs, spelled⟩ := List.exists_cons_of_ne_nil (Name.isValid_ne_nil valid)
  have plain := (Name.isValid_plain valid).1
  simp only [spelled, List.mem_cons, not_or] at plain
  simp [isAbsolute, fileName, spelled, separator, Ne.symm plain.1]

/-- The dot behind a stem without dots makes the segment a name. -/
theorem leaf_component (valid : Name.isValid stem) :
    component? (options.leaf stem) = some (.name (String.ofList (options.leaf stem))) := by
  obtain ⟨c, cs, spelled⟩ := List.exists_cons_of_ne_nil (Name.isValid_ne_nil valid)
  have undotted := (Name.isValid_plain valid).2
  simp only [spelled, List.mem_cons, not_or] at undotted
  apply component?_name
  · simp [leaf, spelled, isFiller]
  · intro dots
    simp only [leaf, spelled, List.cons_append, List.cons.injEq] at dots
    exact undotted.1 dots.1.symm

theorem modelPath_components (valid : Name.isValid stem) :
    (options.modelPath stem).components =
      .name "Models" :: .name (String.ofList (options.leaf stem)) :: options.deeper := by
  have cut : segments (options.modelPath stem).text.toList =
      "Models".toList :: options.leaf stem :: (segments options.extension.toList).tail := by
    rw [← options.fileName_segments valid, modelPath,
      join_relative (options.fileName_relative valid) (by decide) (by decide)]
    exact segments_append_separator (by decide) _
  have models : component? "Models".toList = some (.name "Models") := by decide
  rw [components_of_segments cut (by decide), List.filterMap_cons, models, List.filterMap_cons,
    options.leaf_component valid]
  rfl

theorem partialPath_components (valid : Name.isValid stem) :
    (options.partialPath stem).components =
      .name "Models" :: .name "Partials" :: .name (String.ofList (options.leaf stem)) ::
        options.deeper := by
  have folder : ((⟨"Models"⟩ : Path).join ⟨"Partials"⟩).text.toList =
      "Models".toList ++ separator :: "Partials".toList := by decide
  have cut : segments (options.partialPath stem).text.toList =
      "Models".toList :: "Partials".toList :: options.leaf stem ::
        (segments options.extension.toList).tail := by
    rw [← options.fileName_segments valid, partialPath,
      join_relative (options.fileName_relative valid) (by decide) (by decide), folder,
      List.append_assoc, List.cons_append, segments_append_separator (by decide),
      segments_append_separator (by decide)]
  have models : component? "Models".toList = some (.name "Models") := by decide
  have partials : component? "Partials".toList = some (.name "Partials") := by decide
  rw [components_of_segments cut (by decide), List.filterMap_cons, models, List.filterMap_cons,
    partials, List.filterMap_cons, options.leaf_component valid]
  rfl

theorem modelPath_text (valid : Name.isValid stem) :
    options.modelPath stem = ⟨"Models/" ++ stem ++ "." ++ options.extension⟩ := by
  have spelled : (options.modelPath stem).text =
      "Models/" ++ stem ++ "." ++ options.extension := by
    apply String.toList_inj.mp
    rw [modelPath, join_relative (options.fileName_relative valid) (by decide) (by decide)]
    simp [fileName, separator]
  exact congrArg Path.mk spelled

theorem partialPath_text (valid : Name.isValid stem) :
    options.partialPath stem = ⟨"Models/Partials/" ++ stem ++ "." ++ options.extension⟩ := by
  have spelled : (options.partialPath stem).text =
      "Models/Partials/" ++ stem ++ "." ++ options.extension := by
    have folder : ((⟨"Models"⟩ : Path).join ⟨"Partials"⟩).text.toList =
        "Models/Partials".toList := by decide
    apply String.toList_inj.mp
    rw [partialPath, join_relative (options.fileName_relative valid) (by decide) (by decide),
      folder]
    simp [fileName, separator]
  exact congrArg Path.mk spelled

/-- No extension takes a generated file below the folder of hand-editable ones: the stem's component
holds a dot, and `Partials` holds none. -/
theorem not_inPartials_modelPath (valid : Name.isValid stem) :
    ¬ (options.modelPath stem).InPartials := by
  intro inside
  simp only [InPartials, options.modelPath_components valid, List.take_succ_cons, List.take_zero,
    List.cons.injEq, Component.name.injEq, true_and, and_true] at inside
  have dotted : '.' ∈ "Partials".toList := by
    rw [← inside, String.toList_ofList]
    simp [leaf]
  exact absurd dotted (by decide)

theorem inPartials_partialPath (valid : Name.isValid stem) :
    (options.partialPath stem).InPartials := by
  rw [InPartials, options.partialPath_components valid]
  rfl

/-! ## Extensions without separators -/

section

variable {options} (flat : separator ∉ options.extension.toList)

include flat

theorem leaf_flat (stem : String) :
    String.ofList (options.leaf stem) = stem ++ "." ++ options.extension := by
  simp [leaf, segments_plain flat, String.ofList_append, String.append_assoc]

theorem deeper_flat : options.deeper = [] := by simp [deeper, segments_plain flat]

theorem modelPath_flat (valid : Name.isValid stem) :
    (options.modelPath stem).components =
      [.name "Models", .name (stem ++ "." ++ options.extension)] := by
  rw [options.modelPath_components valid, leaf_flat flat, deeper_flat flat]

theorem partialPath_flat (valid : Name.isValid stem) :
    (options.partialPath stem).components =
      [.name "Models", .name "Partials", .name (stem ++ "." ++ options.extension)] := by
  rw [options.partialPath_components valid, leaf_flat flat, deeper_flat flat]

end

/-! ## Files at one place -/

theorem leaf_inj (stem other : String) :
    String.ofList (options.leaf stem) = String.ofList (options.leaf other) ↔ stem = other := by
  simp [leaf]

theorem modelPath_same {other : String} (valid : Name.isValid stem)
    (validOther : Name.isValid other) :
    (options.modelPath stem).same (options.modelPath other) = (stem == other) := by
  rw [Bool.eq_iff_iff, same_iff, options.modelPath_components valid,
    options.modelPath_components validOther, beq_iff_eq, ← options.leaf_inj]
  simp

theorem partialPath_same {other : String} (valid : Name.isValid stem)
    (validOther : Name.isValid other) :
    (options.partialPath stem).same (options.partialPath other) = (stem == other) := by
  rw [Bool.eq_iff_iff, same_iff, options.partialPath_components valid,
    options.partialPath_components validOther, beq_iff_eq, ← options.leaf_inj]
  simp

theorem partialPath_same_modelPath {other : String} (valid : Name.isValid stem)
    (validOther : Name.isValid other) :
    (options.partialPath stem).same (options.modelPath other) = false := by
  cases equal : (options.partialPath stem).same (options.modelPath other) with
  | false => rfl
  | true =>
    have inside := options.inPartials_partialPath valid
    rw [InPartials, (same_iff _ _).mp equal] at inside
    exact absurd inside (options.not_inPartials_modelPath validOther)

theorem fileName_inj {other : String} (equal : options.fileName other = options.fileName stem) :
    other = stem := by
  simpa [fileName, String.append_left_inj] using equal

/-- The place of a generated file tells its stem, even among stems that are not valid. -/
theorem modelPath_inj {other : String} (valid : Name.isValid stem)
    (equal : options.modelPath other = options.modelPath stem) : other = stem :=
  options.fileName_inj
    (join_inj (options.fileName_relative valid) (by decide) (by decide) (by decide) equal)

theorem partialPath_inj {other : String} (valid : Name.isValid stem)
    (equal : options.partialPath other = options.partialPath stem) : other = stem :=
  options.fileName_inj
    (join_inj (options.fileName_relative valid) (by decide) (by decide) (by decide) equal)

end Model.Options

end VaultModels
