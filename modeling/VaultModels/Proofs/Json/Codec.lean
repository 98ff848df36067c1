import VaultModels.Json.Codec
import VaultModels.Proofs.Json.Number
import VaultModels.Proofs.Json.Text

/-!
# Codecs that read what they write

A lawful codec reads every value back from what is written of it, in any layout, behind any blanks and
before anything that a value cannot go on with, and stops there. The codecs of this library are put
together from a few, so the law is held here for each of these and for lists; objects follow in a module
of their own. What else a codec reads is left open.
-/
namespace VaultModels.Json

open Text

variable {α : Type} {blanks rest : List Char} {c : Char}

/-! ## Between values -/

def AllBlank (cs : List Char) : Prop := ∀ c ∈ cs, isBlank c = true

/-- What a value may open with: no blank, and nothing that ends a list. -/
def Opens (c : Char) : Prop := isBlank c = false ∧ c ≠ ']'

instance : Decidable (Opens c) := inferInstanceAs (Decidable (isBlank c = false ∧ c ≠ ']'))

/-- What may stand behind a value: the end of the text, or a character that no value goes on with. -/
def Closes (rest : List Char) : Prop :=
  ∀ c ∈ rest.head?, c = ',' ∨ c = ']' ∨ c = '\x7d' ∨ isBlank c = true

theorem allBlank_nil : AllBlank [] := nofun

theorem closes_nil : Closes [] := nofun

theorem isBlank_cases (blank : isBlank c = true) : c = ' ' ∨ c = '\n' ∨ c = '\t' ∨ c = '\r' := by
  simpa [isBlank, or_assoc] using blank

theorem Closes.endsNumber (closes : Closes rest) : EndsNumber rest := by
  intro c first
  rcases closes c first with rfl | rfl | rfl | blank
  · decide
  · decide
  · decide
  · rcases isBlank_cases blank with rfl | rfl | rfl | rfl <;> decide

theorem opens_of_numeric (numeric : c = '-' ∨ isDigit c = true) : Opens c := by
  constructor
  · refine Bool.eq_false_iff.mpr fun blank => ?_
    rcases isBlank_cases blank with rfl | rfl | rfl | rfl <;> exact absurd numeric (by decide)
  · rintro rfl
    exact absurd numeric (by decide)

theorem dropBlanks_append (blank : AllBlank blanks) (rest : List Char) :
    dropBlanks (blanks ++ rest) = dropBlanks rest := List.dropWhile_append_of_pos blank

theorem dropBlanks_cons (solid : isBlank c = false) (rest : List Char) :
    dropBlanks (c :: rest) = c :: rest := by simp [dropBlanks, solid]

theorem allBlank_newline (spacing : Spacing) : AllBlank spacing.newline := by
  cases spacing with
  | compact => exact nofun
  | pretty depth =>
    intro c member
    rcases List.mem_cons.mp member with rfl | indent
    · rfl
    · rw [List.eq_of_mem_replicate indent]
      rfl

/-! ## Pieces between brackets -/

/-- Pieces on lines of their own, with a comma before each but the first. -/
def separated (spacing : Spacing) : Bool → List (List Char) → List Char
  | _, [] => []
  | isFirst, piece :: pieces =>
    (if isFirst then [] else [',']) ++ (spacing.newline ++ (piece ++ separated spacing false pieces))

theorem separated_false (spacing : Spacing) (pieces : List (List Char)) :
    separated spacing false pieces = pieces.flatMap fun piece => ',' :: (spacing.newline ++ piece) := by
  induction pieces with
  | nil => rfl
  | cons piece pieces ih => simp [separated, ih]

theorem writeBetween_eq (left right : Char) (spacing : Spacing) (pieces : List (List Char)) :
    ∃ closing, AllBlank closing ∧ writeBetween left right spacing pieces =
      left :: (separated spacing.inner true pieces ++ (closing ++ [right])) := by
  cases pieces with
  | nil => exact ⟨[], nofun, rfl⟩
  | cons first pieces =>
    refine ⟨spacing.newline, allBlank_newline spacing, ?_⟩
    simp [writeBetween, separated, separated_false]

/-- There are no more pieces than characters behind the bracket. -/
theorem length_le_separated (spacing : Spacing) (isFirst : Bool) (pieces : List (List Char)) :
    pieces.length ≤ (separated spacing isFirst pieces).length + 1 := by
  have commas : ∀ pieces, pieces.length ≤ (separated spacing false pieces).length := by
    intro pieces
    induction pieces with
    | nil => exact Nat.le_refl 0
    | cons piece pieces ih =>
      simp only [separated, List.length_append, List.length_cons, Bool.false_eq_true, if_false]
      omega
  cases pieces with
  | nil => exact Nat.zero_le _
  | cons piece pieces =>
    have later := commas pieces
    simp only [separated, List.length_append, List.length_cons]
    omega

theorem closes_separated (blank : AllBlank blanks) (right : c = ']' ∨ c = '\x7d')
    (spacing : Spacing) (pieces : List (List Char)) (rest : List Char) :
    Closes (separated spacing false pieces ++ (blanks ++ c :: rest)) := by
  intro d first
  cases pieces with
  | cons piece pieces =>
    cases first
    exact .inl rfl
  | nil =>
    cases blanks with
    | nil =>
      cases first
      exact .inr (right.imp_right .inl)
    | cons b blanks =>
      cases first
      exact .inr (.inr (.inr (blank _ List.mem_cons_self)))

theorem nextElement_closing (blank : AllBlank blanks) (isFirst : Bool) (rest : List Char) :
    Codec.nextElement isFirst (blanks ++ ']' :: rest) = .ok (false, ']' :: rest) := by
  rw [Codec.nextElement, dropBlanks_append blank]
  rfl

theorem nextElement_separated (opens : Opens c) (isFirst : Bool) (cs : List Char)
    (pieces : List (List Char)) (rest : List Char) :
    Codec.nextElement isFirst (separated spacing isFirst ((c :: cs) :: pieces) ++ rest) =
      .ok (true, c :: cs ++ (separated spacing false pieces ++ rest)) := by
  have line := allBlank_newline spacing
  cases isFirst with
  | true =>
    simp only [separated, if_true, List.nil_append, List.append_assoc]
    rw [Codec.nextElement, dropBlanks_append line, List.cons_append, dropBlanks_cons opens.1]
    split
    next same => cases same
    next same => exact absurd (List.cons.inj same).1 opens.2
    next same =>
      cases same
      rfl
  | false =>
    simp only [separated, Bool.false_eq_true, if_false, List.append_assoc, List.cons_append,
      List.nil_append]
    rw [Codec.nextElement, dropBlanks_cons rfl]
    split
    next same => cases same
    next same => exact absurd (List.cons.inj same).1 (by decide)
    next same =>
      obtain ⟨rfl, rfl⟩ := List.cons.inj same
      rw [if_neg Bool.false_ne_true, if_pos rfl, dropBlanks_append line, dropBlanks_cons opens.1]
      split
      next same => cases same
      next same => exact absurd (List.cons.inj same).1 opens.2
      next => rfl

/-! ## The law -/

/-- A codec that reads back what it writes, and no more of the text than that. -/
structure Codec.IsLawful (codec : Codec α) : Prop where
  opens : ∀ spacing value, ∃ c cs, codec.write spacing value = c :: cs ∧ Opens c
  reads : ∀ {blanks} spacing value {rest}, AllBlank blanks → Closes rest →
    codec.read (blanks ++ (codec.write spacing value ++ rest)) = .ok (value, rest)

namespace Codec

variable {codec : Codec α}

theorem IsLawful.reads_here (lawful : codec.IsLawful) (spacing : Spacing) (value : α)
    (closes : Closes rest) : codec.read (codec.write spacing value ++ rest) = .ok (value, rest) :=
  lawful.reads spacing value allBlank_nil closes

/-- A whole text of one value is read as this value. -/
theorem IsLawful.parse_print (lawful : codec.IsLawful) (spacing : Spacing) (value : α) :
    codec.parse (codec.print spacing value) = .ok value := by
  have read := lawful.reads_here spacing value closes_nil
  rw [List.append_nil] at read
  rw [parse, print, String.toList_ofList, read]
  rfl

theorem readText_written (blank : AllBlank blanks) (value : String) (rest : List Char) :
    readText (blanks ++ (writeText value ++ rest)) = .ok (value, rest) := by
  rw [readText, startingWith, dropBlanks_append blank, writeText_append, dropBlanks_cons rfl]
  dsimp only
  rw [if_pos rfl, readBody_written]
  exact congrArg (fun text => Except.ok (text, rest)) (String.ofList_toList)

theorem text_lawful : text.IsLawful where
  opens _ _ := ⟨'"', _, rfl, by decide⟩
  reads {_} _ value {rest} blank _ := readText_written blank value rest

theorem readInt32_written (blank : AllBlank blanks) (value : Int32) (closes : Closes rest) :
    readInt32 (blanks ++ (intChars value.toInt ++ rest)) = .ok (value, rest) := by
  have fits : value.toInt.natAbs ≤ Nat.pow 2 63 := by
    have lower := Int32.le_toInt value
    have upper := Int32.toInt_lt value
    exact Nat.le_trans (by omega : value.toInt.natAbs ≤ 2 ^ 31) (by decide)
  have number : readNumber (intChars value.toInt ++ rest) = .ok (some value.toInt, rest) :=
    readNumber_intChars fits closes.endsNumber
  obtain ⟨c, cs, written, numeric⟩ := intChars_cons value.toInt
  have solid := (opens_of_numeric numeric).1
  rw [written, List.cons_append] at number
  rw [readInt32, dropBlanks_append blank, written, List.cons_append, dropBlanks_cons solid]
  dsimp only
  rw [if_pos numeric, number]
  dsimp only [bind, Except.bind]
  rw [toInt32?_toInt]

theorem int32_lawful : int32.IsLawful where
  opens _ value := by
    obtain ⟨c, cs, written, numeric⟩ := intChars_cons value.toInt
    exact ⟨c, cs, written, opens_of_numeric numeric⟩
  reads {_} _ value {_} blank closes := readInt32_written blank value closes

theorem bool_lawful : bool.IsLawful where
  opens _ value := by
    cases value with
    | true => exact ⟨'t', _, rfl, by decide⟩
    | false => exact ⟨'f', _, rfl, by decide⟩
  reads {_} _ value {rest} blank _ := by
    change readBool _ = _
    rw [readBool, dropBlanks_append blank]
    cases value with
    | true => rfl
    | false => rfl

theorem choice_lawful {ofName? : String → Option α} {name : α → String}
    (named : ∀ value, ofName? (name value) = some value) : (choice ofName? name).IsLawful where
  opens _ value := ⟨'"', _, rfl, by decide⟩
  reads {blanks} _ value {rest} blank _ := by
    have read : readText (writeText (name value) ++ rest) = .ok (name value, rest) :=
      readText_written allBlank_nil (name value) rest
    rw [writeText_append] at read
    change readChoice ofName? (blanks ++ (writeText (name value) ++ rest)) = _
    rw [readChoice, dropBlanks_append blank, writeText_append, dropBlanks_cons rfl]
    split
    next same =>
      obtain ⟨_, rfl⟩ := List.cons.inj same
      rw [read]
      dsimp only [bind, Except.bind]
      rw [named value]
    next same => cases same
    next unquoted _ => exact absurd rfl (unquoted _)

/-- `null` and a value are told apart by the first letter. -/
theorem optional_lawful (lawful : codec.IsLawful)
    (named : ∀ spacing value, (codec.write spacing value).head? ≠ some 'n') :
    (optional codec).IsLawful where
  opens spacing value := by
    cases value with
    | none => exact ⟨'n', _, rfl, by decide⟩
    | some value => exact lawful.opens spacing value
  reads {blanks} spacing value {rest} blank closes := by
    cases value with
    | none =>
      simp only [optional]
      rw [dropBlanks_append blank]
      rfl
    | some value =>
      obtain ⟨c, cs, written, opens⟩ := lawful.opens spacing value
      have read := lawful.reads_here spacing value closes
      simp only [optional]
      rw [written, List.cons_append] at read
      rw [dropBlanks_append blank, written, List.cons_append, dropBlanks_cons opens.1]
      split
      next same =>
        cases same
        exact absurd (by rw [written]; rfl) (named spacing value)
      next => rw [read]; rfl

theorem optional_text_lawful : text.optional.IsLawful := optional_lawful text_lawful nofun

theorem optional_int32_lawful : int32.optional.IsLawful := by
  refine optional_lawful int32_lawful fun spacing value opened => ?_
  obtain ⟨c, cs, written, numeric⟩ := intChars_cons value.toInt
  simp only [int32, written, List.head?_cons, Option.some.injEq] at opened
  exact absurd (opened ▸ numeric) (by decide)

/-- Each value takes one round. -/
theorem readElements_separated (lawful : codec.IsLawful) (spacing : Spacing) (blank : AllBlank blanks)
    (values : List α) (rest : List Char) {fuel : Nat} (enough : values.length < fuel) (isFirst : Bool) :
    readElements codec.read fuel isFirst
        (separated spacing isFirst (values.map (codec.write spacing)) ++ (blanks ++ ']' :: rest)) =
      .ok (values, rest) := by
  induction values generalizing fuel isFirst with
  | nil =>
    obtain ⟨fuel, rfl⟩ := Nat.exists_eq_succ_of_ne_zero (Nat.ne_zero_of_lt enough)
    rw [List.map_nil, separated, List.nil_append, readElements, nextElement_closing blank]
    rfl
  | cons value values ih =>
    obtain ⟨fuel, rfl⟩ := Nat.exists_eq_succ_of_ne_zero (Nat.ne_zero_of_lt enough)
    obtain ⟨c, cs, written, opens⟩ := lawful.opens spacing value
    have read := lawful.reads_here spacing value
      (closes_separated blank (.inl rfl) spacing (values.map (codec.write spacing)) rest)
    rw [written] at read
    rw [List.map_cons, written, readElements, nextElement_separated opens]
    dsimp only [bind, Except.bind]
    rw [read]
    dsimp only
    rw [ih (by simpa using enough) false]

theorem list_lawful (lawful : codec.IsLawful) : (list codec).IsLawful where
  opens spacing values := by
    obtain ⟨closing, _, written⟩ := writeBetween_eq '[' ']' spacing
      (values.map (codec.write spacing.inner))
    exact ⟨'[', _, written, by decide⟩
  reads {blanks} spacing values {rest} blank _ := by
    obtain ⟨closing, line, written⟩ := writeBetween_eq '[' ']' spacing
      (values.map (codec.write spacing.inner))
    have enough := length_le_separated spacing.inner true (values.map (codec.write spacing.inner))
    rw [List.length_map] at enough
    simp only [list]
    rw [written, startingWith, dropBlanks_append blank, List.cons_append, dropBlanks_cons rfl]
    dsimp only
    rw [if_pos rfl, List.append_assoc, List.append_assoc, List.singleton_append]
    refine readElements_separated lawful spacing.inner line values rest ?_ true
    simp only [List.length_append, List.length_cons]
    omega

end Codec

end VaultModels.Json
