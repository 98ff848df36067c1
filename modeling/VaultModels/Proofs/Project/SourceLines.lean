import VaultModels.Proofs.Model.SourceText
import VaultModels.Proofs.Project.Dangling
import VaultModels.Proofs.Project.References

/-!
# Lines of planned files

In an accepted plan a carriage return or a line feed stands only where a line of a file ends. Next
line, line separator and paragraph separator end a line as well, and a file has one of them exactly
if a text of the schema has that the file embeds.
-/
namespace VaultModels.Project

open Model Schema Text

section

variable {ω : Type} {call : PlanCall ω} {snapshot : Snapshot} {options : Options} {cache : Cache}
  {accepted : Plan}

/-- Where the root namespace holds no terminator, the text of every planned file is made of lines that
the configured line ending closes and that hold neither a carriage return nor a line feed; each of the
other three terminators is in the file exactly if it is in a text of the schema that is embedded
there. -/
theorem lines_unbroken (agrees : cache.Agrees snapshot)
    (ended : (call.run snapshot.backend options (cache, ())).result = .ok accepted)
    (root : isOneLine options.rootNamespace) {artifact : Artifact}
    (planned : artifact ∈ accepted.artifacts.map (·.artifact)) :
    ∃ subject ∈ snapshot.subjects options, artifact = snapshot.artifactOf options subject ∧
      artifact.content = String.join ((snapshot.sourceLines options subject).map
        (· ++ options.layout.lineEnding.text)) ∧
      (∀ line ∈ snapshot.sourceLines options subject,
        '\r' ∉ line.toList ∧ '\n' ∉ line.toList) ∧
      ∀ c ∈ passedTerminators, c ∈ artifact.content.toList ↔
        ∃ text ∈ snapshot.embeddedTexts subject, c ∈ text.toList := by
  obtain ⟨subject, listed, rfl⟩ :=
    snapshot.exists_subject options (PlanCall.inventory_of_accepted agrees ended planned)
  have made := PlanCall.rendered_of_accepted agrees ended
  rw [render_over] at made
  have clear := (withFault_eq_ok.mp made).1
  exact ⟨subject, listed, rfl, snapshot.sourceLines_join options subject,
    Snapshot.sourceLines_unbroken listed clear root,
    fun c passed => Snapshot.mem_content_iff listed clear root passed⟩

end

/-- Names and an alias try to end the lines that they stand in. -/
def unrulySnapshot : Snapshot :=
  { objectTypes := [.real 0 "Docu\r\nment", .staticList 200 "Sta\ntus"]
    classes := [⟨5, "In\rvoice", 0, [], none, [⟨1001, false⟩]⟩]
    propertyDefs :=
      [{ id := 1001, name := "Am\nount", dataType := .floating, aliases := ["PD.\r\nAmount"] }]
    valueListItems := [{ id := 1, name := "O\npen", valueList := 200 }] }

theorem lines_unbroken_unruly :
    let call : PlanCall Memory := ⟨Memory.writer, {}, true⟩
    ∃ accepted, (call.run unrulySnapshot.backend {} ([], ())).result = .ok accepted ∧
      ∀ artifact ∈ accepted.artifacts.map (·.artifact),
        (∃ lines : List String, artifact.content = String.join (lines.map (· ++ "\r\n")) ∧
          ∀ line ∈ lines, '\r' ∉ line.toList ∧ '\n' ∉ line.toList) ∧
        ∀ c ∈ passedTerminators, c ∉ artifact.content.toList := by
  intro call
  have agrees := Cache.agrees_empty unrulySnapshot
  obtain ⟨accepted, ended⟩ := call.forced_accepted rfl {} agrees (by decide)
  refine ⟨accepted, ended, fun artifact planned => ?_⟩
  obtain ⟨subject, listed, -, content, unbroken, traced⟩ :=
    lines_unbroken agrees ended (by decide) planned
  refine ⟨⟨_, content, unbroken⟩, fun c passed found => ?_⟩
  obtain ⟨text, embedded, inside⟩ := (traced c passed).mp found
  have plain : ∀ subject ∈ unrulySnapshot.subjects {},
      ∀ text ∈ unrulySnapshot.embeddedTexts subject, passedOn text = [] := by decide
  have left := mem_passedOn.mpr ⟨inside, passed⟩
  rw [plain subject listed text embedded] at left
  cases left

/-- A display name with a line separator. -/
def separatedType : ObjectType := .real 0 "Docu\u2028ment"

def separatedSnapshot : Snapshot := { objectTypes := [separatedType] }

/-- The separator is in the file, and what follows it there is no comment any more. -/
theorem lines_broken :
    let call : PlanCall Memory := ⟨Memory.writer, {}, true⟩
    ∃ accepted, (call.run separatedSnapshot.backend {} ([], ())).result = .ok accepted ∧
      ∃ artifact ∈ accepted.artifacts.map (·.artifact),
        ({} : Options).layout.HasLine artifact.content
          "/// Base type for objects of type Docu\u2028ment." ∧
        '\u2028' ∈ artifact.content.toList := by
  intro call
  have agrees := Cache.agrees_empty separatedSnapshot
  have clear : separatedSnapshot.walkedAssociations.findSome? separatedSnapshot.fault? = none := by
    decide
  obtain ⟨accepted, ended⟩ := call.forced_accepted rfl {} agrees clear
  have listed : .objectType separatedType ∈ separatedSnapshot.subjects {} := by decide
  have first : separatedSnapshot.declaration? {} (objectTypeName separatedType) =
      some (typeArtifact {} separatedType) := by
    have foreign : wrapperName ≠ objectTypeName separatedType ∧
        propertyEnumName ≠ objectTypeName separatedType := by decide
    have alone : separatedSnapshot.realTypes = [separatedType] := by decide
    rw [Snapshot.declaration?, if_neg foreign.1, if_neg foreign.2, alone, List.findSome?_cons,
      Snapshot.typeDeclaration?, if_pos rfl, Option.some_or]
  refine ⟨accepted, ended, typeArtifact {} separatedType,
    PlanCall.mem_of_declaration? agrees ended (isValid_objectTypeName separatedType) first
      (typeArtifact_declares {} separatedType), ?_, ?_⟩
  · have comment : "/// Base type for objects of type Docu\u2028ment." =
        "/// " ++ ("Base type for objects of type " ++ docText separatedType.nameSingular ++ ".") := by
      decide
    rw [comment]
    refine Code.Layout.print_hasLine _ ?_
    simp [typeBaseItems, summary, Code.Item.block]
  · exact (Snapshot.mem_content_iff listed clear (by decide) (by decide)).mpr
      ⟨"Docu\u2028ment", by decide, by decide⟩

end VaultModels.Project
