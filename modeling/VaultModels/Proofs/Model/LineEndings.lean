import VaultModels.Proofs.Model.EnumText

/-!
# Line endings of files

The lines of a file are the same under both line endings, and hold neither a carriage return nor a line
feed themselves if the root namespace holds none. So the file with carriage returns is the other one
with one put in front of each line feed. The other three line terminators may stand in both.
-/
namespace VaultModels

namespace Text

/-- The text with a carriage return in front of each line feed. -/
def withReturns (text : String) : String :=
  String.ofList (text.toList.flatMap fun c => if c = '\n' then ['\r', '\n'] else [c])

theorem withReturns_append (front back : String) :
    withReturns (front ++ back) = withReturns front ++ withReturns back := by
  rw [withReturns, String.toList_append, List.flatMap_append, String.ofList_append]
  rfl

theorem withReturns_of_free {text : String} (free : '\n' ∉ text.toList) :
    withReturns text = text := by
  have kept : (text.toList.flatMap fun c => if c = '\n' then ['\r', '\n'] else [c]) =
      text.toList.flatMap ([·]) := by
    refine List.flatMap_congr fun c member => if_neg ?_
    rintro rfl
    exact free member
  rw [withReturns, kept, List.flatMap_singleton', String.ofList_toList]

open Code in
/-- Of lines that hold no line feed, only the endings change. -/
theorem withReturns_join {lines : List String} (free : ∀ line ∈ lines, '\n' ∉ line.toList) :
    withReturns (String.join (lines.map (· ++ LineEnding.lf.text))) =
      String.join (lines.map (· ++ LineEnding.crlf.text)) := by
  induction lines with
  | nil => rfl
  | cons line rest ih =>
    rw [List.forall_mem_cons] at free
    have ending : withReturns LineEnding.lf.text = LineEnding.crlf.text := by decide
    rw [List.map_cons, List.map_cons, String.join_cons, String.join_cons, withReturns_append,
      withReturns_append, withReturns_of_free free.1, ending, ih free.2]

end Text

namespace Model

open Code Text

def Options.withLineEnding (options : Options) (ending : LineEnding) : Options :=
  { options with layout := { options.layout with lineEnding := ending } }

def Artifact.withReturns (artifact : Artifact) : Artifact :=
  { artifact with content := Text.withReturns artifact.content }

theorem Artifact.withReturns_path (artifact : Artifact) :
    artifact.withReturns.path = artifact.path := rfl

theorem Artifact.withReturns_kind (artifact : Artifact) :
    artifact.withReturns.kind = artifact.kind := rfl

theorem Artifact.withReturns_eq {one other : Artifact} (path : one.path = other.path)
    (kind : one.kind = other.kind) (content : Text.withReturns one.content = other.content) :
    one.withReturns = other := by
  rw [withReturns, path, kind, content]

/-- Texts with the same terminators are unbroken alike. -/
theorem isUnbroken_congr {one other : String} (same : terminators one = terminators other) :
    IsUnbroken one ↔ IsUnbroken other := by
  have inBoth : ∀ c ∈ lineTerminators, c ∈ one.toList ↔ c ∈ other.toList := by
    intro c ends
    have member : c ∈ terminators one ↔ c ∈ terminators other := by rw [same]
    simpa only [mem_terminators, ends, and_true] using member
  rw [IsUnbroken, IsUnbroken, inBoth '\r' (by decide), inBoth '\n' (by decide)]

end Model

namespace Schema.Snapshot

open Code Model Text

variable {snapshot : Snapshot} {options : Options} {subject : Subject}

variable (snapshot options subject) in
theorem sourceLines_withLineEnding (ending : LineEnding) :
    snapshot.sourceLines (options.withLineEnding ending) subject =
      snapshot.sourceLines options subject := by
  cases subject <;> rfl

/-- Lines are unbroken exactly if the texts of the items are. -/
theorem sourceLines_isUnbroken :
    (∀ line ∈ snapshot.sourceLines options subject, IsUnbroken line) ↔
      ∀ item ∈ snapshot.fileItems options subject, IsUnbroken item.text := by
  have bare : ∀ line : Line, IsUnbroken (options.layout.indented line) ↔ IsUnbroken line.text :=
    fun line => isUnbroken_congr (options.layout.terminators_indented line)
  rw [sourceLines, List.forall_mem_map, ← List.forall_mem_map (f := Item.text),
    ← Item.map_text_lines 0, List.forall_mem_map]
  simp only [bare]

variable (snapshot options subject) in
/-- One line of a file tells the namespace, and no other line depends on it. -/
theorem fileItems_namespace :
    ∃ front back, ∀ changed : Options, changed.partials = options.partials →
      IsUnbroken changed.rootNamespace → snapshot.fileItems changed subject =
        front ++ .line ("namespace " ++ changed.modelNamespace) :: back := by
  cases subject with
  | wrapper =>
    refine ⟨wrapperHead.map .line, wrapperBody.map .line, fun changed _ root => ?_⟩
    have free : '\n' ∉ ("namespace " ++ changed.modelNamespace).toList :=
      (isUnbroken_append (by decide) (isUnbroken_modelNamespace root)).2
    rw [fileItems, wrapperLines, splitLines_of_free free, List.map_append, List.map_append,
      List.map_singleton, List.map_singleton, String.ofList_toList]
    exact (List.append_cons _ _ _).symm
  | properties | valueList =>
    exact ⟨Item.banner ++ Item.usings ["System.ComponentModel"], _,
      fun changed _ _ => (List.append_cons _ _ _).symm⟩
  | objectType type =>
    exact ⟨Item.banner ++ Item.usings ["System", "MFilesAPI"], _,
      fun changed _ _ => (List.append_cons _ _ _).symm⟩
  | objectClass cls =>
    have parts : ∃ front back, ∀ modelNamespace, classItems modelNamespace options.partials cls
        (snapshot.baseName cls) (snapshot.membersOf cls) =
          front ++ .line ("namespace " ++ modelNamespace) :: back :=
      ⟨Item.banner ++ Item.usings ["System", "System.Collections.Generic", "MFilesAPI"], _,
        fun _ => (List.append_cons _ _ _).symm⟩
    obtain ⟨front, back, items⟩ := parts
    refine ⟨front, back, fun changed same _ => ?_⟩
    rw [fileItems, same, items]
  | classPartial cls =>
    exact ⟨Item.usings ["System", "MFilesAPI"], _, fun changed _ _ => (List.append_cons _ _ _).symm⟩

section

variable (listed : subject ∈ snapshot.subjects options)
  (clear : snapshot.walkedAssociations.findSome? snapshot.fault? = none)
  (root : IsUnbroken options.rootNamespace)

include listed clear root

/-- A root namespace may hold any of the other terminators. -/
theorem sourceLines_isUnbroken_of_root :
    ∀ line ∈ snapshot.sourceLines options subject, IsUnbroken line := by
  let unrooted : Options := { options with rootNamespace := "" }
  have plain : ∀ line ∈ snapshot.sourceLines unrooted subject, IsUnbroken line :=
    sourceLines_unbroken listed clear rfl
  obtain ⟨front, back, items⟩ := snapshot.fileItems_namespace options subject
  have header : IsUnbroken ("namespace " ++ options.modelNamespace) :=
    isUnbroken_append (by decide) (isUnbroken_modelNamespace root)
  rw [sourceLines_isUnbroken, items unrooted rfl (by decide : IsUnbroken "")] at plain
  rw [sourceLines_isUnbroken, items options rfl root]
  simp only [List.forall_mem_append, List.forall_mem_cons] at plain ⊢
  exact ⟨plain.1, header, plain.2.2⟩

theorem artifactOf_withReturns :
    (snapshot.artifactOf (options.withLineEnding .lf) subject).withReturns =
      snapshot.artifactOf (options.withLineEnding .crlf) subject := by
  have unbroken := sourceLines_isUnbroken_of_root listed clear root
  refine Artifact.withReturns_eq ?_ ?_ ?_
  · rw [artifactOf_path, artifactOf_path]
    rfl
  · rw [artifactOf_kind, artifactOf_kind]
  · rw [sourceLines_join, sourceLines_join, sourceLines_withLineEnding, sourceLines_withLineEnding]
    exact withReturns_join fun line inside => (unbroken line inside).2

/-- With line feeds alone there is no carriage return in the file. -/
theorem artifactOf_lf_free :
    '\r' ∉ (snapshot.artifactOf (options.withLineEnding .lf) subject).content.toList := by
  have unbroken := sourceLines_isUnbroken_of_root listed clear root
  rw [sourceLines_join, sourceLines_withLineEnding, String.toList_join, List.flatMap_map]
  intro member
  obtain ⟨line, inside, inLine⟩ := List.mem_flatMap.mp member
  rw [String.toList_append] at inLine
  rcases List.mem_append.mp inLine with own | ending
  · exact (unbroken line inside).1 own
  · exact absurd ending (by decide : '\r' ∉ LineEnding.lf.text.toList)

end

/-- The inventories under the two line endings. -/
theorem inventory_withReturns
    (clear : snapshot.walkedAssociations.findSome? snapshot.fault? = none)
    (root : IsUnbroken options.rootNamespace) :
    snapshot.inventory (options.withLineEnding .crlf) =
        (snapshot.inventory (options.withLineEnding .lf)).map Artifact.withReturns ∧
      ∀ artifact ∈ snapshot.inventory (options.withLineEnding .lf),
        '\r' ∉ artifact.content.toList := by
  have subjects : ∀ ending, snapshot.subjects (options.withLineEnding ending) =
      snapshot.subjects options := fun _ => rfl
  rw [inventory_eq_subjects, inventory_eq_subjects, subjects, subjects, List.map_map,
    List.forall_mem_map]
  refine ⟨List.map_congr_left fun subject listed => ?_, fun subject listed => ?_⟩
  · exact (artifactOf_withReturns listed clear root).symm
  · exact artifactOf_lf_free listed clear root

end Schema.Snapshot

end VaultModels
