import VaultModels.Proofs.Json.Object
import VaultModels.Schema.Codecs

/-!
# Snapshots read back

Every codec of a schema element is lawful, as are the codecs that it is put together from. So a snapshot
that is written as a file and read again is the same snapshot, and what a file is read as does not change
when it is written anew.
-/
namespace VaultModels.Schema

open Json Json.Codec

theorem ValueKind.ofWireName?_wireName (kind : ValueKind) :
    ofWireName? kind.wireName = some kind := by
  cases kind <;> rfl

theorem AutomaticValue.ofWireName?_wireName (value : AutomaticValue) :
    ofWireName? value.wireName = some value := by
  cases value <;> rfl

theorem ValueKind.codec_lawful : ValueKind.codec.IsLawful :=
  choice_lawful ValueKind.ofWireName?_wireName

theorem AutomaticValue.codec_lawful : AutomaticValue.codec.IsLawful :=
  choice_lawful AutomaticValue.ofWireName?_wireName

theorem Association.codec_lawful : Association.codec.IsLawful :=
  object_lawful (fun _ => .required int32_lawful <| .defaulted bool_lawful .done) (by decide)

theorem ObjectType.codec_lawful : ObjectType.codec.IsLawful :=
  object_lawful
    (fun _ =>
      .required int32_lawful <|
      .required text_lawful <|
      .defaulted text_lawful <|
      .defaulted bool_lawful <|
      .defaulted (list_lawful text_lawful) <|
      .defaulted optional_text_lawful .done)
    (by decide)

theorem ObjectClass.codec_lawful : ObjectClass.codec.IsLawful :=
  object_lawful
    (fun _ =>
      .required int32_lawful <|
      .required text_lawful <|
      .required int32_lawful <|
      .defaulted (list_lawful text_lawful) <|
      .defaulted optional_text_lawful <|
      .defaulted (list_lawful Association.codec_lawful) .done)
    (by decide)

theorem PropertyDef.codec_lawful : PropertyDef.codec.IsLawful :=
  object_lawful
    (fun _ =>
      .required int32_lawful <|
      .required text_lawful <|
      .required ValueKind.codec_lawful <|
      .defaulted optional_int32_lawful <|
      .defaulted AutomaticValue.codec_lawful <|
      .defaulted bool_lawful <|
      .defaulted (list_lawful text_lawful) <|
      .defaulted optional_text_lawful .done)
    (by decide)

theorem ValueListItem.codec_lawful : ValueListItem.codec.IsLawful :=
  object_lawful
    (fun _ =>
      .required int32_lawful <|
      .required text_lawful <|
      .required int32_lawful <|
      .defaulted optional_int32_lawful <|
      .defaulted optional_text_lawful .done)
    (by decide)

theorem WorkflowState.codec_lawful : WorkflowState.codec.IsLawful :=
  object_lawful
    (fun _ =>
      .required int32_lawful <|
      .required text_lawful <|
      .required int32_lawful <|
      .defaulted (list_lawful text_lawful) <|
      .defaulted optional_text_lawful .done)
    (by decide)

theorem NamedElement.codec_lawful : NamedElement.codec.IsLawful :=
  object_lawful
    (fun _ =>
      .required int32_lawful <|
      .required text_lawful <|
      .defaulted (list_lawful text_lawful) <|
      .defaulted optional_text_lawful .done)
    (by decide)

theorem ObjectInstance.codec_lawful : ObjectInstance.codec.IsLawful :=
  object_lawful
    (fun _ => .required int32_lawful <| .required int32_lawful <| .required text_lawful .done)
    (by decide)

namespace Snapshot

theorem codec_lawful : codec.IsLawful :=
  object_lawful
    (fun _ =>
      .defaulted (list_lawful ObjectType.codec_lawful) <|
      .defaulted (list_lawful ObjectClass.codec_lawful) <|
      .defaulted (list_lawful PropertyDef.codec_lawful) <|
      .defaulted (list_lawful ValueListItem.codec_lawful) <|
      .defaulted (list_lawful NamedElement.codec_lawful) <|
      .defaulted (list_lawful WorkflowState.codec_lawful) <|
      .defaulted (list_lawful NamedElement.codec_lawful) <|
      .defaulted (list_lawful NamedElement.codec_lawful) <|
      .defaulted (list_lawful NamedElement.codec_lawful) <|
      .defaulted (list_lawful NamedElement.codec_lawful) <|
      .defaulted (list_lawful ObjectInstance.codec_lawful) .done)
    (by decide)

theorem ofJson?_toJson (snapshot : Snapshot) : ofJson? snapshot.toJson = .ok snapshot :=
  codec_lawful.parse_print (.pretty 0) snapshot

/-- A snapshot that is written is read back, and a text that is read as a snapshot is read as the same
one after it has been written anew. -/
theorem snapshot_reads_back :
    (∀ snapshot : Snapshot, ofJson? snapshot.toJson = .ok snapshot) ∧
    ∀ (text : String) (snapshot : Snapshot), ofJson? text = .ok snapshot →
      ofJson? snapshot.toJson = ofJson? text := by
  constructor
  · exact ofJson?_toJson
  · intro text snapshot accepted
    rw [accepted]
    exact ofJson?_toJson snapshot

/-- A file with an object that is written as a list, and with a member that snapshots do not have. -/
def handWritten : String := "\x7b\"objects\": [[1, 7, \"G\"]], \"note\": null\x7d"

theorem snapshot_reads_back_handWritten :
    ofJson? handWritten = .ok { objects := [⟨1, 7, "G"⟩] } ∧
    ofJson? (toJson { objects := [⟨1, 7, "G"⟩] }) = ofJson? handWritten := by
  have accepted : ofJson? handWritten = .ok { objects := [⟨1, 7, "G"⟩] } := by decide
  exact ⟨accepted, snapshot_reads_back.2 handWritten _ accepted⟩

end Snapshot

end VaultModels.Schema
