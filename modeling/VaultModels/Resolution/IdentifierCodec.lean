import VaultModels.Json.Codec
import VaultModels.Resolution.Identifier

/-!
# Identifiers as JSON

An identifier is written as its alias, if it has one, and as an id otherwise. What resolving gave is
not written.
-/
namespace VaultModels.Resolution

open Json Json.Codec Schema

/-- What is written of an identifier. -/
structure IdentifierForm where
  aliasText : Option String := none
  id : Option ElementId := none
  deriving DecidableEq, Repr

namespace IdentifierForm

def codec : Codec IdentifierForm :=
  object {}
    [.whenPresent "Alias" text (·.aliasText) fun e v => { e with aliasText := v },
     .whenPresent "ID" int32 (·.id) fun e v => { e with id := v }]

end IdentifierForm

namespace Identifier

/-- The resolved id goes before the one that the identifier was made from. -/
def form (identifier : Identifier) : IdentifierForm :=
  if identifier.aliasText ≠ "" then ⟨some identifier.aliasText, none⟩
  else if identifier.id ≠ unresolvedId then ⟨none, some identifier.id⟩
  else ⟨none, some identifier.sourceId⟩

/-- An alias that is not empty goes before an id. -/
def ofForm (form : IdentifierForm) : Identifier :=
  match form.aliasText.filter (· != ""), form.id with
  | some aliasText, _ => ofAlias aliasText
  | none, some id => ofId id
  | none, none => empty

def ofJson? (text : String) : Except Fault Identifier :=
  (IdentifierForm.codec.parse text).map ofForm

def toJson (identifier : Identifier) : String :=
  IdentifierForm.codec.print .compact identifier.form

end Identifier

end VaultModels.Resolution
