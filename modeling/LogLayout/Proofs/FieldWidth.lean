import LogLayout.Proofs.Checked.Field
import LogLayout.Text.Numeral

namespace LogLayout

namespace Text

def spaces (n : Nat) : String := String.ofList (List.replicate n ' ')

/-- The largest number of 64 bits. -/
def largestWord : Nat := wordBound - 1

end Text

namespace FieldWidth

/-- How many characters a field has at most. A maximum that is not set is the largest number that a
machine counts to. -/
def mostChars (w : FieldWidth) : Nat := w.maximum.getD Text.largestWord

/-- What becomes of a field that is brought to a width. Of a field above the maximum one end is
kept, and any other is padded if it is below the minimum. -/
structure Fitted (w : FieldWidth) (field fitted : String) : Prop where
  keepsLast : ∀ m ∈ w.maximum, m < field.length → w.cutLeft = true →
    fitted.length = m ∧ ∃ front, field = front ++ fitted
  keepsFirst : ∀ m ∈ w.maximum, m < field.length → w.cutLeft = false →
    fitted.length = m ∧ ∃ back, field = fitted ++ back
  padsRight : (∀ m ∈ w.maximum, field.length ≤ m) → field.length < w.minimum →
    w.alignLeft = true → fitted = field ++ Text.spaces (w.minimum - field.length)
  padsLeft : (∀ m ∈ w.maximum, field.length ≤ m) → field.length < w.minimum →
    w.alignLeft = false → fitted = Text.spaces (w.minimum - field.length) ++ field
  unchanged : (∀ m ∈ w.maximum, field.length ≤ m) → w.minimum ≤ field.length →
    fitted = field

variable {w : FieldWidth} {field : String}

theorem fit_of_lt {m : Nat} (hmaximum : w.maximum = some m) (hlong : m < field.length) :
    w.fit field = String.ofList (w.cut m field.toList) := by
  rw [← String.length_toList] at hlong
  rw [fit, fitChars, hmaximum]
  simp only [if_pos hlong]

theorem fit_of_le (hmaximum : ∀ m ∈ w.maximum, field.length ≤ m) :
    w.fit field = String.ofList (w.pad field.toList) := by
  rw [fit, fitChars]
  cases hm : w.maximum with
  | none => rfl
  | some m =>
    have hshort := hmaximum m hm
    rw [← String.length_toList] at hshort
    simp only [if_neg (Nat.not_lt.mpr hshort)]

theorem fit_eq_self (hminimum : w.minimum ≤ field.length)
    (hmaximum : ∀ m ∈ w.maximum, field.length ≤ m) : w.fit field = field := by
  rw [← String.length_toList] at hminimum
  rw [fit_of_le hmaximum, pad_of_minimum_le hminimum, String.ofList_toList]

theorem fitted_fit (w : FieldWidth) (field : String) : w.Fitted field (w.fit field) := by
  refine ⟨?_, ?_, ?_, ?_, fun hmaximum hminimum => fit_eq_self hminimum hmaximum⟩
  · intro m hmaximum hlong hcut
    rw [fit_of_lt hmaximum hlong, cut, if_pos hcut]
    refine ⟨?_, String.ofList (field.toList.take (field.toList.length - m)), ?_⟩
    · rw [String.length_ofList, List.length_drop, String.length_toList]
      omega
    · rw [← String.ofList_append, List.take_append_drop, String.ofList_toList]
  · intro m hmaximum hlong hcut
    rw [fit_of_lt hmaximum hlong, cut, if_neg (Bool.eq_false_iff.mp hcut)]
    refine ⟨?_, String.ofList (field.toList.drop m), ?_⟩
    · rw [String.length_ofList, List.length_take, String.length_toList]
      omega
    · rw [← String.ofList_append, List.take_append_drop, String.ofList_toList]
  · intro hmaximum _ halign
    rw [fit_of_le hmaximum, pad, if_pos halign, String.ofList_append, String.ofList_toList,
      String.length_toList, Text.spaces]
  · intro hmaximum _ halign
    rw [fit_of_le hmaximum, pad, if_neg (Bool.eq_false_iff.mp halign), String.ofList_append,
      String.ofList_toList, String.length_toList, Text.spaces]

theorem length_fit_of_lt {m : Nat} (hmaximum : w.maximum = some m) (hlong : m < field.length) :
    (w.fit field).length = m := by
  have hfitted := w.fitted_fit field
  cases hcut : w.cutLeft with
  | true => exact (hfitted.keepsLast m hmaximum hlong hcut).1
  | false => exact (hfitted.keepsFirst m hmaximum hlong hcut).1

theorem length_fit_of_le (hmaximum : ∀ m ∈ w.maximum, field.length ≤ m) :
    (w.fit field).length = max field.length w.minimum := by
  have hpad : (w.pad field.toList).length =
      field.toList.length + (w.minimum - field.toList.length) := by
    cases halign : w.alignLeft <;> simp [pad, halign, Nat.add_comm]
  rw [fit_of_le hmaximum, String.length_ofList, hpad, String.length_toList]
  omega

/-- A field is no shorter than the minimum and no longer than the maximum, if these can both be. -/
theorem length_fit_between (field : String) (hbounds : ∀ m ∈ w.maximum, w.minimum ≤ m) :
    w.minimum ≤ (w.fit field).length ∧ ∀ m ∈ w.maximum, (w.fit field).length ≤ m := by
  by_cases hlong : ∃ m ∈ w.maximum, m < field.length
  · obtain ⟨m, hmaximum, hlong⟩ := hlong
    rw [length_fit_of_lt hmaximum hlong]
    refine ⟨hbounds m hmaximum, ?_⟩
    intro n hn
    exact Nat.le_of_eq (Option.mem_unique hmaximum hn)
  · have hshort : ∀ m ∈ w.maximum, field.length ≤ m := by
      intro m hmaximum
      exact Nat.le_of_not_lt fun hlt => hlong ⟨m, hmaximum, hlt⟩
    rw [length_fit_of_le hshort]
    refine ⟨Nat.le_max_right _ _, ?_⟩
    intro m hmaximum
    exact Nat.max_le.mpr ⟨hshort m hmaximum, hbounds m hmaximum⟩

theorem fit_fit (hbounds : ∀ m ∈ w.maximum, w.minimum ≤ m) :
    w.fit (w.fit field) = w.fit field := by
  obtain ⟨hminimum, hmaximum⟩ := length_fit_between field hbounds
  exact fit_eq_self hminimum hmaximum

/-- Without a minimum below the maximum a field that was cut is padded the next time. -/
example : ({ minimum := 2, maximum := some 1 } : FieldWidth).fit "log" = "g" ∧
    ({ minimum := 2, maximum := some 1 } : FieldWidth).fit "g" = " g" := by decide

/-- A field that was appended to a buffer is cut or padded in place, which is defined for all text
and leaves the buffer in front of it alone. If the minimum is not above the maximum, the field has
a number of characters between the two and stays as it is when it is brought to its width again. -/
theorem fitFrom_pads_and_cuts (w : FieldWidth) (buffer field : String) :
    w.fitFrom buffer.utf8ByteSize (buffer ++ field) = buffer ++ w.fit field ∧
    w.fitFrom? buffer.utf8ByteSize (buffer ++ field) = some (buffer ++ w.fit field) ∧
    w.Fitted field (w.fit field) ∧
    (w.minimum ≤ w.mostChars → field.length ≤ Text.largestWord →
      w.minimum ≤ (w.fit field).length ∧ (w.fit field).length ≤ w.mostChars ∧
      w.fitFrom buffer.utf8ByteSize (buffer ++ w.fit field) = buffer ++ w.fit field) := by
  refine ⟨fitFrom_append w buffer field, fitFrom?_append w buffer field, fitted_fit w field, ?_⟩
  intro hbounds hsize
  have hle : ∀ m ∈ w.maximum, w.minimum ≤ m := by
    intro m hmaximum
    rwa [mostChars, Option.mem_def.mp hmaximum] at hbounds
  obtain ⟨hminimum, hmaximum⟩ := length_fit_between field hle
  refine ⟨hminimum, ?_, ?_⟩
  · cases hm : w.maximum with
    | some m =>
      rw [mostChars, hm]
      exact hmaximum m hm
    | none =>
      -- A field that is not cut grows to the minimum at most, which a machine can count to.
      rw [mostChars, hm] at hbounds ⊢
      rw [length_fit_of_le (by simp [hm])]
      exact Nat.max_le.mpr ⟨hsize, hbounds⟩
  · rw [fitFrom_append, fit_fit hle]

/-- Characters of several bytes on both sides of a cut. -/
theorem fitFrom_pads_and_cuts_umlauts :
    let w : FieldWidth := { minimum := 2, maximum := some 3 }
    w.minimum ≤ w.mostChars ∧ "äöüß".length ≤ Text.largestWord ∧
    w.fitFrom "é".utf8ByteSize ("é" ++ "äöüß") = "éöüß" ∧
    w.fitFrom "é".utf8ByteSize "éöüß" = "éöüß" := by
  intro w
  have hbounds : w.minimum ≤ w.mostChars := by decide
  have hsize : "äöüß".length ≤ Text.largestWord := by decide
  have hfit : w.fit "äöüß" = "öüß" := by decide
  obtain ⟨hfirst, -, -, hlengths⟩ := fitFrom_pads_and_cuts w "é" "äöüß"
  obtain ⟨-, -, hagain⟩ := hlengths hbounds hsize
  rw [hfit] at hfirst hagain
  exact ⟨hbounds, hsize, hfirst, hagain⟩

end FieldWidth

end LogLayout
