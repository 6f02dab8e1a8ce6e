import LogLayout.Proofs.Checked.Specifier
import LogLayout.Text.Numeral

namespace LogLayout

namespace Text

/-- A number of 64 bits with one more digit behind it, unless that takes more bits. -/
def pushDigit? (n : Nat) (c : Char) : Option Nat :=
  let next := 10 * n + (c.toNat - '0'.toNat)
  if next < wordBound then some next else none

/-- Reads digits, of which there has to be one, into 64 bits. -/
def wordOfDigits? (digits : List Char) : Option Nat :=
  if digits.isEmpty then none else digits.foldlM pushDigit? 0

theorem le_foldl_digits (n : Nat) (digits : List Char) :
    n ≤ digits.foldl (fun n c => 10 * n + (c.toNat - '0'.toNat)) n := by
  induction digits generalizing n with
  | nil => exact Nat.le_refl n
  | cons c digits ih =>
    calc
      n ≤ 10 * n + (c.toNat - '0'.toNat) := by omega
      _ ≤ _ := ih _

theorem foldlM_pushDigit? {n : Nat} (hn : n < wordBound) (digits : List Char) :
    digits.foldlM pushDigit? n =
      if digits.foldl (fun n c => 10 * n + (c.toNat - '0'.toNat)) n < wordBound then
        some (digits.foldl (fun n c => 10 * n + (c.toNat - '0'.toNat)) n)
      else none := by
  induction digits generalizing n with
  | nil => exact (if_pos hn).symm
  | cons c digits ih =>
    rw [List.foldlM_cons, List.foldl_cons, pushDigit?]
    by_cases hnext : 10 * n + (c.toNat - '0'.toNat) < wordBound
    · rw [if_pos hnext]
      exact ih hnext
    · -- The digits that are left cannot make the number smaller again.
      have hgrows := le_foldl_digits (10 * n + (c.toNat - '0'.toNat)) digits
      rw [if_neg hnext, if_neg (by omega)]
      rfl

theorem wordOfDigits?_eq {digits : List Char} (h : digits ≠ []) :
    wordOfDigits? digits =
      if decimalValue digits < wordBound then some (decimalValue digits) else none := by
  rw [wordOfDigits?, if_neg (by simpa using h), foldlM_pushDigit? (by decide), decimalValue]

end Text

namespace Pattern

namespace WidthText

/-- The word that digits stand for, unless it is above the limit. -/
def boundedWord (digits : List Char) : Except ConverterError Nat :=
  match (Text.wordOfDigits? digits).filter (· ≤ FieldWidth.limit) with
  | some n => .ok n
  | none => .error (.invalidFieldWidth (String.ofList digits) FieldWidth.limit)

/-- The word that digits stand for if there are any. -/
def optionalWord (digits : List Char) : Except ConverterError (Option Nat) :=
  if digits.isEmpty then .ok none else (boundedWord digits).map some

/-- The field width that is meant, in words. -/
def fieldWidthOfWords (w : WidthText) : Except ConverterError FieldWidth := do
  let minimum ← optionalWord w.minimum
  let maximum ← optionalWord w.maximumDigits
  return {
    minimum := minimum.getD 0, maximum
    alignLeft := w.dash, cutLeft := !w.dashBehindPoint }

theorem boundedWord_eq_bounded {digits : List Char} (h : digits ≠ []) :
    boundedWord digits = bounded digits := by
  have hword : FieldWidth.limit < Text.wordBound := by decide
  rw [boundedWord, bounded, Text.wordOfDigits?_eq h]
  by_cases hlimit : Text.decimalValue digits ≤ FieldWidth.limit
  · have hfits : Text.decimalValue digits < Text.wordBound := by omega
    simp [Option.filter, hfits, hlimit]
  · by_cases hfits : Text.decimalValue digits < Text.wordBound <;>
      simp [Option.filter, hfits, hlimit]

theorem optionalWord_eq (digits : List Char) :
    optionalWord digits =
      if FieldWidth.limit < Text.decimalValue digits then
        .error (.invalidFieldWidth (String.ofList digits) FieldWidth.limit)
      else .ok (if digits = [] then none else some (Text.decimalValue digits)) := by
  cases digits with
  | nil => rfl
  | cons c cs =>
    have hne := List.cons_ne_nil c cs
    rw [optionalWord, if_neg (by simp), boundedWord_eq_bounded hne]
    by_cases hlarge : FieldWidth.limit < Text.decimalValue (c :: cs)
    · rw [bounded_of_lt hlarge, if_pos hlarge]
      rfl
    · rw [bounded_of_le (Nat.not_lt.mp hlarge), if_neg hlarge, if_neg hne]
      rfl

/-- Words may stand for the numbers of a width. -/
theorem fieldWidthOfWords_eq (w : WidthText) : w.fieldWidthOfWords = w.fieldWidth := by
  have hnone : ∀ digits : List Char,
      (if digits = [] then none else some (Text.decimalValue digits)).getD 0 =
        Text.decimalValue digits := by
    intro digits
    cases digits <;> rfl
  rw [fieldWidth_eq, fieldWidthOfWords, optionalWord_eq, optionalWord_eq]
  by_cases hminimum : FieldWidth.limit < Text.decimalValue w.minimum
  · rw [if_pos hminimum, if_pos hminimum]
    rfl
  · rw [if_neg hminimum, if_neg hminimum]
    by_cases hmaximum : FieldWidth.limit < Text.decimalValue w.maximumDigits
    · rw [if_pos hmaximum, if_pos hmaximum]
      rfl
    · rw [if_neg hmaximum, if_neg hmaximum]
      exact congrArg (fun n => Except.ok (FieldWidth.mk n _ _ _)) (hnone w.minimum)

end WidthText

namespace Cursor

/-- Reads the width part of a specifier, and gives the field width that is meant. -/
def fieldWidth? (c : Cursor) : Option (Except ConverterError FieldWidth × Cursor) := do
  let (w, c) ← c.width?
  return (w.fieldWidthOfWords, c)

/-- The width part is read as long as it can be, whether it is accepted or not, and the cursor ends
behind it. It is accepted if the numbers that have digits keep to the limit, as numbers of any size,
and otherwise the first that does not is complained of in its own digits. -/
theorem fieldWidth?_reads_longest (before cs : List Char) :
    ∃ w rest,
      (between before cs).fieldWidth? = some (w.fieldWidth, between (before ++ w.source) rest) ∧
      WidthText.read cs = (w, rest) ∧ w.source ++ rest = cs ∧
      (∀ v : WidthText, v.IsLongest cs ↔ v = w) ∧
      ((∃ width, w.fieldWidth = .ok width) ↔
        ∀ digits ∈ [w.minimum, w.maximumDigits],
          digits ≠ [] → Text.decimalValue digits ≤ FieldWidth.limit) ∧
      (∀ width, w.fieldWidth = .ok width →
        width.minimum = Text.decimalValue w.minimum ∧
        width.maximum =
          (if w.maximumDigits = [] then none else some (Text.decimalValue w.maximumDigits)) ∧
        width.alignLeft = w.dash ∧ width.cutLeft = !w.dashBehindPoint) ∧
      (∀ err, w.fieldWidth = .error err → err = .invalidFieldWidth
        (String.ofList (if FieldWidth.limit < Text.decimalValue w.minimum then w.minimum
          else w.maximumDigits)) FieldWidth.limit) := by
  have hread := WidthText.source_append_rest cs
  generalize hw : WidthText.read cs = read at hread
  obtain ⟨w, rest⟩ := read
  refine ⟨w, rest, ?_, rfl, hread, ?_, w.exists_fieldWidth_iff, ?_, ?_⟩
  · rw [fieldWidth?, width?_between, hw]
    simp only [Option.bind_eq_bind, Option.bind_some, Option.pure_def,
      WidthText.fieldWidthOfWords_eq]
  · intro v
    rw [WidthText.isLongest_iff, hw]
  · intro width hwidth
    rw [WidthText.fieldWidth_eq] at hwidth
    split at hwidth
    · cases hwidth
    · split at hwidth
      · cases hwidth
      · cases hwidth
        exact ⟨rfl, rfl, rfl, rfl⟩
  · intro err herr
    rw [WidthText.fieldWidth_eq] at herr
    split at herr
    · rename_i hminimum
      cases herr
      rw [if_pos hminimum]
    · rename_i hminimum
      split at herr
      · cases herr
        rw [if_neg hminimum]
      · cases herr

end Cursor

end Pattern

end LogLayout
