import VaultModels.Proofs.Json.Object
import VaultModels.Resolution.IdentifierCodec

/-!
# Identifiers read back

What is written of an identifier is read back whole: its alias, if it has one, and an id otherwise. What
it has lost by being written is not looked at here.
-/
namespace VaultModels.Resolution

open Json Json.Codec

theorem IdentifierForm.codec_lawful : IdentifierForm.codec.IsLawful :=
  object_lawful
    (fun _ => .whenPresent optional_text_lawful rfl <| .whenPresent optional_int32_lawful rfl .done)
    (by decide)

theorem Identifier.ofJson?_toJson (identifier : Identifier) :
    ofJson? identifier.toJson = .ok (ofForm identifier.form) := by
  rw [ofJson?, toJson, IdentifierForm.codec_lawful.parse_print]
  rfl

end VaultModels.Resolution
