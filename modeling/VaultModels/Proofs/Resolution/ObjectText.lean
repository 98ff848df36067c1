import VaultModels.Proofs.Guid.Canonical
import VaultModels.Proofs.Resolution.PaddedText
import VaultModels.Proofs.Session.Trace
import VaultModels.Proofs.Text.Numeral
import VaultModels.Resolution.ObjectReference

/-!
# Objects named by text

A text without blanks around it denotes an object if it spells its id, or the pair of its type and id
in parentheses; what is displayed of an object is such a text, unless one number of a pair is negative.
These texts need no backend. A braced GUID takes one lookup, and every other text is refused as it was
given. Whether a denoted object exists is not looked at.
-/
namespace VaultModels.Resolution

open Schema Text

/-- What a text without blanks around it says of an object: its id, with or without its type. -/
inductive Denotes : List Char → ObjectRef → Prop
  | bare {cs : List Char} {id : ElementId} (spelled : Spells cs id.toInt) : Denotes cs ⟨none, id⟩
  | typed {left right : List Char} {m n : Nat} {type id : ElementId} (first : IsNumeral left m)
      (second : IsNumeral right n) (typeFits : type.toInt = m) (idFits : id.toInt = n) :
      Denotes ('(' :: (left ++ '-' :: (right ++ [')']))) ⟨some type, id⟩

/-- Negative numbers have a sign, which is no digit and so no part of a pair. -/
def HasNaturalPair (object : ObjectRef) : Prop :=
  ∀ type, object.objectType = some type → 0 ≤ type.toInt ∧ 0 ≤ object.id.toInt

namespace ObjectReference

variable {cs left right : List Char} {object other : ObjectRef} {text : String}

/-! ## The pair in parentheses -/

theorem splitPair_eq_some :
    splitPair cs = some (left, right) ↔
      ∃ m n, IsNumeral left m ∧ IsNumeral right n ∧
        cs = '(' :: (left ++ '-' :: (right ++ [')'])) := by
  constructor
  · intro split
    unfold splitPair at split
    split at split
    next rest =>
      dsimp only at split
      split at split
      next tail cut =>
        split at split
        next fits =>
          obtain ⟨some_type, some_id, closed⟩ := fits
          simp only [Option.some.injEq, Prod.mk.injEq] at split
          obtain ⟨rfl, rfl⟩ := split
          obtain ⟨m, first⟩ := isNumeral_takeWhile rest some_type
          obtain ⟨n, second⟩ := isNumeral_takeWhile tail some_id
          refine ⟨m, n, first, second, ?_⟩
          rw [← closed, List.takeWhile_append_dropWhile, ← cut, List.takeWhile_append_dropWhile]
        next => contradiction
      next => contradiction
    next => contradiction
  · intro shape
    obtain ⟨m, n, first, second, rfl⟩ := shape
    have hyphen : isDigit '-' = false := by decide
    have paren : isDigit ')' = false := by decide
    simp only [splitPair, first.takeWhile_append hyphen, first.dropWhile_append hyphen,
      second.takeWhile_append paren, second.dropWhile_append paren]
    rw [if_pos ⟨first.some_digit, second.some_digit, trivial⟩]

/-- A pair opens with a parenthesis, so it spells no number. -/
theorem readInt32?_pair (rest : List Char) : readInt32? ('(' :: rest) = none :=
  readInt32?_eq_none (by decide) (by decide) rest

/-! ## What becomes of a text -/

theorem resolveText_blank (blank : trim text = "") :
    resolveText text = .fail (.argument "object reference is empty") := by
  rw [resolveText, if_pos blank]

/-- A text that denotes an object is answered without the backend. -/
theorem resolveText_denotes (denotes : Denotes (trim text).toList object) :
    resolveText text = .done object := by
  have visible : trim text ≠ "" := by
    intro blank
    rw [blank] at denotes
    cases denotes with
    | bare spelled =>
      have unread : readInt32? "".toList = none := by decide
      rw [readInt32?_eq_some.mpr spelled] at unread
      contradiction
  unfold resolveText
  dsimp only
  rw [if_neg visible]
  generalize (trim text).toList = cs at denotes
  cases denotes with
  | bare spelled => rw [readInt32?_eq_some.mpr spelled]
  | typed first second typeFits idFits =>
    have typeRead := readInt32?_eq_some.mpr (first.spells_iff.mpr typeFits)
    have idRead := readInt32?_eq_some.mpr (second.spells_iff.mpr idFits)
    rw [readInt32?_pair, splitPair_eq_some.mpr ⟨_, _, first, second, rfl⟩]
    simp only [typeRead, idRead]

/-- A braced GUID is looked up in its canonical form. -/
theorem resolveText_braced {digits : List Char} (given : Guid.IsDigits digits)
    (spelled : (trim text).toList = Guid.bracedChars digits) :
    resolveText text = Session.fetch Error.ofSchema (.objectByGuid (Guid.canonicalText digits)) := by
  have braced : Guid.ofBraced? (trim text) = some (Guid.canonicalText digits) := by
    rw [Guid.ofBraced?, Guid.readBraced_eq_some.mpr ⟨spelled, given⟩, Option.map_some]
  have visible : trim text ≠ "" := by
    intro blank
    rw [blank] at spelled
    contradiction
  have number := Guid.readInt32?_of_ofBraced? braced
  have pair : splitPair (trim text).toList = none := by
    rw [spelled]
    rfl
  unfold resolveText
  dsimp only
  rw [if_neg visible, number, pair]
  simp only [braced]

/-- Anything else is refused, numbers that do not fit among it. -/
theorem resolveText_other (visible : trim text ≠ "")
    (nameless : ∀ object, ¬ Denotes (trim text).toList object)
    (unbraced : ∀ digits, Guid.IsDigits digits → (trim text).toList ≠ Guid.bracedChars digits) :
    resolveText text = .fail (.unrecognized text) := by
  have noGuid : Guid.ofBraced? (trim text) = none := by
    rw [Guid.ofBraced?, Option.map_eq_none_iff, Option.eq_none_iff_forall_ne_some]
    intro digits read
    obtain ⟨spelled, given⟩ := Guid.readBraced_eq_some.mp read
    exact unbraced digits given spelled
  unfold resolveText
  dsimp only
  rw [if_neg visible]
  split
  next id read => exact absurd (.bare (readInt32?_eq_some.mp read)) (nameless ⟨none, id⟩)
  next =>
    split
    next left right split =>
      split
      next type id typeRead idRead =>
        obtain ⟨m, n, first, second, shape⟩ := splitPair_eq_some.mp split
        have typeFits := first.spells_iff.mp (readInt32?_eq_some.mp typeRead)
        have idFits := second.spells_iff.mp (readInt32?_eq_some.mp idRead)
        refine absurd ?_ (nameless ⟨some type, id⟩)
        rw [shape]
        exact .typed first second typeFits idFits
      next => rfl
    next => rw [noGuid]

/-! ## What is displayed -/

theorem toList_display_typed (type id : ElementId) :
    (ObjectRef.display ⟨some type, id⟩).toList =
      '(' :: ((int32Text type).toList ++ '-' :: ((int32Text id).toList ++ [')'])) := by
  simp [ObjectRef.display]

/-- What is displayed holds digits, hyphens and parentheses. -/
theorem isTrimmed_display (object : ObjectRef) : IsTrimmed object.display.toList := by
  obtain ⟨type, id⟩ := object
  apply isTrimmed_of_all
  cases type with
  | none => exact isBlank_int32Text id
  | some type =>
    rw [toList_display_typed]
    simp only [List.forall_mem_cons, List.forall_mem_append]
    refine ⟨by decide, isBlank_int32Text type, by decide, isBlank_int32Text id, by decide, ?_⟩
    simp

/-- What is displayed of an object denotes it. -/
theorem denotes_display (natural : HasNaturalPair object) :
    Denotes object.display.toList object := by
  obtain ⟨type, id⟩ := object
  cases type with
  | none => exact .bare (readInt32?_eq_some.mp (readInt32?_int32Text id))
  | some type =>
    obtain ⟨typeNatural, idNatural⟩ := natural type rfl
    obtain ⟨m, typeFits⟩ := Int.eq_ofNat_of_zero_le typeNatural
    obtain ⟨n, idFits⟩ := Int.eq_ofNat_of_zero_le idNatural
    rw [toList_display_typed, int32Text, int32Text, typeFits, idFits, intText, intText,
      String.toList_ofList, String.toList_ofList]
    exact .typed (isNumeral_natChars m) (isNumeral_natChars n) typeFits idFits

theorem denotes_padded {before after : List Char} (front : before.all isBlank)
    (back : after.all isBlank) (natural : HasNaturalPair object) :
    Denotes (trim (padded before object.display after)).toList object := by
  rw [trim_padded front back, trim, String.toList_ofList,
    trimChars_of_isTrimmed (isTrimmed_display object)]
  exact denotes_display natural

/-! ## Runs -/

variable {σ : Type}

/-- What a reference comes to against a backend, and the calls that it takes. -/
def against (reference : ObjectReference) (backend : Backend σ) (state : σ) :
    Except Error ObjectRef × List Reply :=
  let ended := reference.resolve.run backend.recorded ([], state)
  (ended.result, ended.state.1)

theorem against_text (text : String) (backend : Backend σ) (state : σ) :
    (ObjectReference.text text).against backend state =
      let ended := (resolveText text).run backend.recorded ([], state)
      (ended.result, ended.state.1) := by
  simp only [against, resolve]

theorem against_denotes (backend : Backend σ) (state : σ)
    (denotes : Denotes (trim text).toList object) :
    (ObjectReference.text text).against backend state = (.ok object, []) := by
  rw [against_text, resolveText_denotes denotes]
  rfl

theorem against_blank (backend : Backend σ) (state : σ) (blank : trim text = "") :
    (ObjectReference.text text).against backend state =
      (.error (.argument "object reference is empty"), []) := by
  rw [against_text, resolveText_blank blank]
  rfl

theorem against_braced (backend : Backend σ) (state : σ) {digits : List Char}
    (given : Guid.IsDigits digits) (spelled : (trim text).toList = Guid.bracedChars digits) :
    let answer := (backend (.objectByGuid (Guid.canonicalText digits)) state).1
    (ObjectReference.text text).against backend state =
      (answer.mapError Error.ofSchema,
        [⟨.objectByGuid (Guid.canonicalText digits), answer⟩]) := by
  obtain ⟨result, calls⟩ := Session.run_fetch Error.ofSchema
    (.objectByGuid (Guid.canonicalText digits)) backend state
  rw [against_text, resolveText_braced given spelled]
  exact Prod.ext result calls

theorem against_other (backend : Backend σ) (state : σ) (visible : trim text ≠ "")
    (nameless : ∀ object, ¬ Denotes (trim text).toList object)
    (unbraced : ∀ digits, Guid.IsDigits digits → (trim text).toList ≠ Guid.bracedChars digits) :
    (ObjectReference.text text).against backend state = (.error (.unrecognized text), []) := by
  rw [against_text, resolveText_other visible nameless unbraced]
  rfl

/-- Without a call, an object comes of no text but those that denote it. -/
theorem denotes_of_against {backend : Backend σ} {state : σ}
    (named : (ObjectReference.text text).against backend state = (.ok object, [])) :
    Denotes (trim text).toList object := by
  by_cases blank : trim text = ""
  · rw [against_blank backend state blank] at named
    cases named
  by_cases denoted : ∃ other, Denotes (trim text).toList other
  · obtain ⟨other, denotes⟩ := denoted
    rw [against_denotes backend state denotes] at named
    cases named
    exact denotes
  by_cases braced : ∃ digits, Guid.IsDigits digits ∧ (trim text).toList = Guid.bracedChars digits
  · obtain ⟨digits, given, spelled⟩ := braced
    rw [against_braced backend state given spelled] at named
    exact absurd (congrArg Prod.snd named) (List.cons_ne_nil _ _)
  · simp only [not_exists, not_and] at denoted braced
    rw [against_other backend state blank denoted braced] at named
    cases named

/-- An object is named without any call exactly by the texts that denote it, and what is displayed of
an object names it with blanks around it, too. A blank text is an invalid argument, a braced GUID takes
one lookup of its canonical form, and any other text is not recognized, as it was given. -/
theorem objectText_resolves (backend : Backend σ) (state : σ) :
    (∀ object before after, HasNaturalPair object → before.all isBlank → after.all isBlank →
      (ObjectReference.text (padded before object.display after)).against backend state =
        (.ok object, [])) ∧
    ∀ text,
      (∀ object, (ObjectReference.text text).against backend state = (.ok object, []) ↔
        Denotes (trim text).toList object) ∧
      (trim text = "" → (ObjectReference.text text).against backend state =
        (.error (.argument "object reference is empty"), [])) ∧
      (∀ digits, Guid.IsDigits digits → (trim text).toList = Guid.bracedChars digits →
        let answer := (backend (.objectByGuid (Guid.canonicalText digits)) state).1
        (ObjectReference.text text).against backend state =
          (answer.mapError Error.ofSchema,
            [⟨.objectByGuid (Guid.canonicalText digits), answer⟩])) ∧
      (trim text ≠ "" → (∀ object, ¬ Denotes (trim text).toList object) →
        (∀ digits, Guid.IsDigits digits → (trim text).toList ≠ Guid.bracedChars digits) →
        (ObjectReference.text text).against backend state =
          (.error (.unrecognized text), [])) := by
  refine ⟨fun object before after natural front back => ?_, fun text => ⟨fun object => ?_,
    against_blank backend state, fun digits => against_braced backend state,
    against_other backend state⟩⟩
  · exact against_denotes backend state (denotes_padded front back natural)
  · exact ⟨denotes_of_against, against_denotes backend state⟩

/-- A vault with one object. -/
def archive : Snapshot :=
  { objects := [⟨0, 77, "{A7B0C3D2-11E4-4F56-8A9B-C0D1E2F3A4B5}"⟩] }

/-- The object by its type and id, by its GUID in small letters, and by an id that does not fit. -/
theorem objectText_resolves_archive :
    HasNaturalPair ⟨some 0, 77⟩ ∧ ['\u2003'].all isBlank ∧ ['\n'].all isBlank ∧
    (ObjectReference.text (padded ['\u2003'] (ObjectRef.display ⟨some 0, 77⟩) ['\n'])).against
      archive.backend () = (.ok ⟨some 0, 77⟩, []) ∧
    (ObjectReference.text " {a7b0c3d2-11e4-4f56-8a9b-c0d1e2f3a4b5}").against archive.backend () =
      (.ok ⟨some 0, 77⟩,
        [⟨.objectByGuid "{A7B0C3D2-11E4-4F56-8A9B-C0D1E2F3A4B5}", .ok ⟨some 0, 77⟩⟩]) ∧
    (ObjectReference.text " (0-99999999999)").against archive.backend () =
      (.error (.unrecognized " (0-99999999999)"), []) := by
  obtain ⟨displayed, texts⟩ := objectText_resolves archive.backend ()
  have natural : HasNaturalPair ⟨some 0, 77⟩ := by
    intro type given
    cases given
    decide
  have front : ['\u2003'].all isBlank := by decide
  have back : ['\n'].all isBlank := by decide
  refine ⟨natural, front, back, displayed _ _ _ natural front back, ?_, ?_⟩
  · obtain ⟨-, -, braced, -⟩ := texts " {a7b0c3d2-11e4-4f56-8a9b-c0d1e2f3a4b5}"
    have digits : Guid.IsDigits "a7b0c3d211e44f568a9bc0d1e2f3a4b5".toList :=
      ⟨by decide, by decide⟩
    exact braced _ digits (by decide)
  · obtain ⟨named, -, -, other⟩ := texts " (0-99999999999)"
    refine other (by decide) (fun object denotes => ?_) (fun digits _ spelled => ?_)
    · have refused : ((ObjectReference.text " (0-99999999999)").against archive.backend ()).1 =
          .error (.unrecognized " (0-99999999999)") := by decide
      rw [(named object).mpr denotes] at refused
      cases refused
    · have opens : (trim " (0-99999999999)").toList.head? = some '(' := by decide
      rw [spelled] at opens
      cases opens

end ObjectReference

end VaultModels.Resolution
