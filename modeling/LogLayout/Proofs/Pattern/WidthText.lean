import LogLayout.Pattern.WidthText
import Mathlib.Data.List.TakeWhile

namespace LogLayout.Text

/-- Text behind a run does not lengthen the run when its first character is of another kind. -/
theorem takeWhile_append_of_head {p : Char → Bool} {rest : List Char}
    (h : ∀ c ∈ rest.head?, p c = false) (cs : List Char) :
    (cs ++ rest).takeWhile p = cs.takeWhile p := by
  induction cs with
  | nil =>
    cases rest with
    | nil => rfl
    | cons c rest => simp [h c rfl]
  | cons c cs ih => cases hc : p c <;> simp [hc, ih]

theorem dropWhile_append_of_head {p : Char → Bool} {run rest : List Char}
    (hrun : ∀ c ∈ run, p c = true) (h : ∀ c ∈ rest.head?, p c = false) :
    (run ++ rest).dropWhile p = rest := by
  rw [List.dropWhile_append_of_pos hrun]
  cases rest with
  | nil => rfl
  | cons c rest => simp [h c rfl]

theorem takeWhile_run_append {p : Char → Bool} {run rest : List Char}
    (hrun : ∀ c ∈ run, p c = true) (h : ∀ c ∈ rest.head?, p c = false) :
    (run ++ rest).takeWhile p = run := by
  rw [takeWhile_append_of_head h, List.takeWhile_eq_self_iff.mpr hrun]

theorem toNat_of_isAlpha {c : Char} (h : c.isAlpha = true) :
    (65 ≤ c.toNat ∧ c.toNat ≤ 90) ∨ (97 ≤ c.toNat ∧ c.toNat ≤ 122) := by
  change (decide (65 ≤ c.val ∧ c.val ≤ 90) ||
    (decide (97 ≤ c.val) && decide (c.val ≤ 122))) = true at h
  simpa [UInt32.le_iff_toNat_le] using h

end LogLayout.Text

namespace LogLayout.FieldWidth

/-- Neither bound is above what a pattern may ask for. -/
structure WithinLimit (w : FieldWidth) : Prop where
  minimum : w.minimum ≤ limit
  maximum : ∀ m ∈ w.maximum, m ≤ limit

theorem withinLimit_default : ({} : FieldWidth).WithinLimit := ⟨Nat.zero_le _, by simp⟩

end LogLayout.FieldWidth

namespace LogLayout.Pattern.WidthText

/-- Both numbers are written in digits. -/
structure WellFormed (w : WidthText) : Prop where
  minimum : ∀ c ∈ w.minimum, c.isDigit = true
  maximum : ∀ dash digits, w.maximum = some (dash, digits) → ∀ c ∈ digits, c.isDigit = true

/-- The text starts with the width, and with no longer one. -/
structure IsLongest (w : WidthText) (cs : List Char) : Prop where
  wellFormed : w.WellFormed
  leads : w.source <+: cs
  longest : ∀ v : WidthText, v.WellFormed → v.source <+: cs → v.source.length ≤ w.source.length

/-- The characters that a width is written with. -/
def isWidthChar (c : Char) : Bool := c.isDigit || c = '-' || c = '.'

theorem wellFormed_read (cs : List Char) : (read cs).1.WellFormed := by
  refine ⟨fun c hc => List.mem_takeWhile_imp hc, ?_⟩
  intro dash digits hmaximum c hc
  simp only [read] at hmaximum
  cases hrest : (readDash cs).2.dropWhile Char.isDigit with
  | nil => simp [hrest, readMaximum] at hmaximum
  | cons d ds =>
    by_cases hd : d = '.'
    · simp only [hrest, readMaximum, hd, if_true, Option.some.injEq, Prod.mk.injEq] at hmaximum
      obtain ⟨-, rfl⟩ := hmaximum
      exact List.mem_takeWhile_imp hc
    · simp [hrest, readMaximum, hd] at hmaximum

theorem isWidthChar_of_mem_source {w : WidthText} (hw : w.WellFormed) {c : Char}
    (hc : c ∈ w.source) : isWidthChar c = true := by
  have hdash : ∀ dash, c ∈ dashSource dash → isWidthChar c = true := by
    intro dash hmem
    cases dash with
    | false => simp [dashSource] at hmem
    | true =>
      obtain rfl : c = '-' := by simpa [dashSource] using hmem
      decide
  obtain ⟨dash, minimum, maximum⟩ := w
  simp only [source, List.mem_append] at hc
  rcases hc with (hc | hc) | hc
  · exact hdash dash hc
  · simp [isWidthChar, hw.minimum c hc]
  · cases maximum with
    | none => simp at hc
    | some m =>
      obtain ⟨dash, digits⟩ := m
      simp only [List.mem_cons, List.mem_append] at hc
      rcases hc with rfl | hc | hc
      · decide
      · exact hdash dash hc
      · simp [isWidthChar, hw.maximum dash digits rfl c hc]

theorem isWidthChar_of_isAlpha {c : Char} (h : c.isAlpha = true) : isWidthChar c = false := by
  have hletter := Text.toNat_of_isAlpha h
  have hdigit : c.isDigit = false := by
    rw [Bool.eq_false_iff]
    intro hdigit
    have hnine : c.toNat ≤ 57 := (Char.isDigit_iff_toNat.mp hdigit).2
    omega
  have hdash : c ≠ '-' := by
    rintro rfl
    simp at h
  have hpoint : c ≠ '.' := by
    rintro rfl
    simp at h
  simp [isWidthChar, hdigit, hdash, hpoint]

theorem WellFormed.isLongest_source {w : WidthText} (h : w.WellFormed) : w.IsLongest w.source :=
  ⟨h, List.prefix_refl _, fun _ _ hleads => hleads.length_le⟩

/-- A longest width stays the longest when text is added that cannot be part of a width. -/
theorem IsLongest.append {w : WidthText} {cs rest : List Char} (h : w.IsLongest cs)
    (hrest : ∀ c ∈ rest.head?, isWidthChar c = false) : w.IsLongest (cs ++ rest) := by
  refine ⟨h.wellFormed, h.leads.trans (List.prefix_append cs rest), ?_⟩
  intro v hv hleads
  -- A width that reaches beyond `cs` would hold the first character of `rest`.
  rcases List.prefix_or_prefix_of_prefix hleads (List.prefix_append cs rest) with hshort | hlong
  · exact h.longest v hv hshort
  · obtain ⟨beyond, hbeyond⟩ := hlong
    cases beyond with
    | nil => exact h.longest v hv (by simp [← hbeyond])
    | cons c beyond =>
      have hmem : c ∈ v.source := by simp [← hbeyond]
      have hhead : c ∈ rest.head? := by
        rw [← hbeyond, List.prefix_append_right_inj] at hleads
        obtain ⟨tail, rfl⟩ := hleads
        simp
      have hc := isWidthChar_of_mem_source hv hmem
      rw [hrest c hhead] at hc
      cases hc

theorem readDash_append {dash : Bool} {cs : List Char}
    (h : dash = false → ∀ c ∈ cs.head?, c ≠ '-') :
    readDash (dashSource dash ++ cs) = (dash, cs) := by
  cases dash with
  | true => simp [readDash, dashSource]
  | false =>
    cases cs with
    | nil => rfl
    | cons c cs => simp [readDash, dashSource, h rfl c rfl]

private theorem head?_digits_append {digits rest : List Char}
    (hdigits : ∀ c ∈ digits, c.isDigit = true)
    (hrest : digits = [] → ∀ c ∈ rest.head?, c ≠ '-') : ∀ c ∈ (digits ++ rest).head?, c ≠ '-' := by
  cases digits with
  | nil => exact hrest rfl
  | cons d ds =>
    intro c hc
    obtain rfl : d = c := by simpa using hc
    have hd := hdigits d List.mem_cons_self
    rintro rfl
    revert hd
    decide

/-- Reading a dash and digits takes at least those that the text was written with. -/
private theorem length_signed_le (dash : Bool) {digits : List Char}
    (hdigits : ∀ c ∈ digits, c.isDigit = true) (rest : List Char) :
    (dashSource dash ++ digits).length ≤
      (dashSource (readDash (dashSource dash ++ (digits ++ rest))).1 ++
        (readDash (dashSource dash ++ (digits ++ rest))).2.takeWhile Char.isDigit).length := by
  by_cases hempty : dash = false ∧ digits = []
  · obtain ⟨rfl, rfl⟩ := hempty
    simp [dashSource]
  · have hread : readDash (dashSource dash ++ (digits ++ rest)) = (dash, digits ++ rest) := by
      apply readDash_append
      intro hdash
      apply head?_digits_append hdigits
      intro hdigits
      exact absurd ⟨hdash, hdigits⟩ hempty
    rw [hread, List.takeWhile_append_of_pos hdigits]
    simp only [List.length_append]
    omega

/-- The part of a width in front of a point is read as it was written. -/
private theorem read_point (dash : Bool) {minimum : List Char}
    (hminimum : ∀ c ∈ minimum, c.isDigit = true) (cs : List Char) :
    read (dashSource dash ++ (minimum ++ '.' :: cs)) =
      (⟨dash, minimum, some ((readDash cs).1, (readDash cs).2.takeWhile Char.isDigit)⟩,
        (readDash cs).2.dropWhile Char.isDigit) := by
  have hpoint : ∀ c ∈ ('.' :: cs).head?, Char.isDigit c = false := by
    intro c hc
    obtain rfl : '.' = c := by simpa using hc
    decide
  have hdash : readDash (dashSource dash ++ (minimum ++ '.' :: cs)) =
      (dash, minimum ++ '.' :: cs) := by
    apply readDash_append
    intro _
    apply head?_digits_append hminimum
    simp
  simp only [read, hdash, Text.takeWhile_run_append hminimum hpoint,
    Text.dropWhile_append_of_head hminimum hpoint, readMaximum, if_true]

/-- What is read of text is at least as long as any width that the text starts with. -/
theorem length_source_le_read {v : WidthText} (hv : v.WellFormed) (rest : List Char) :
    v.source.length ≤ (read (v.source ++ rest)).1.source.length := by
  obtain ⟨dash, minimum, maximum⟩ := v
  cases maximum with
  | none =>
    have hsigned := length_signed_le dash hv.minimum rest
    simp only [source, List.append_nil, List.append_assoc, read, List.length_append] at hsigned ⊢
    omega
  | some m =>
    obtain ⟨inner, digits⟩ := m
    have hsigned := length_signed_le inner (hv.maximum inner digits rfl) rest
    have hread := read_point dash hv.minimum (dashSource inner ++ (digits ++ rest))
    simp only [source, List.append_assoc, List.cons_append, List.length_append, List.length_cons,
      hread] at hsigned ⊢
    omega

/-- Reading takes the longest width at the start of text. -/
theorem isLongest_read (cs : List Char) : (read cs).1.IsLongest cs := by
  refine ⟨wellFormed_read cs, ⟨(read cs).2, source_append_rest cs⟩, ?_⟩
  rintro v hv ⟨rest, rfl⟩
  exact length_source_le_read hv rest

theorem read_source {w : WidthText} (hw : w.WellFormed) : read w.source = (w, []) := by
  obtain ⟨dash, minimum, maximum⟩ := w
  cases maximum with
  | none =>
    have hhead := @head?_digits_append minimum [] hw.minimum (by simp)
    have hdash : readDash (dashSource dash ++ minimum) = (dash, minimum) := by
      apply readDash_append
      intro _
      rwa [List.append_nil] at hhead
    have hall := List.takeWhile_eq_self_iff.mpr hw.minimum
    have hnone : minimum.dropWhile Char.isDigit = [] :=
      List.dropWhile_eq_nil_iff.mpr hw.minimum
    simp only [source, List.append_nil, read, hdash, hall, hnone, readMaximum]
  | some m =>
    obtain ⟨inner, digits⟩ := m
    have hdigits := hw.maximum inner digits rfl
    have hhead := @head?_digits_append digits [] hdigits (by simp)
    have hinner : readDash (dashSource inner ++ digits) = (inner, digits) := by
      apply readDash_append
      intro _
      rwa [List.append_nil] at hhead
    have hall := List.takeWhile_eq_self_iff.mpr hdigits
    have hnone : digits.dropWhile Char.isDigit = [] := List.dropWhile_eq_nil_iff.mpr hdigits
    have hread := read_point dash hw.minimum (dashSource inner ++ digits)
    rw [hinner, hall, hnone] at hread
    simpa only [source, List.append_assoc] using hread

/-- A width is known by the way it is written. -/
theorem eq_of_source_eq {v w : WidthText} (hv : v.WellFormed) (hw : w.WellFormed)
    (h : v.source = w.source) : v = w := by
  have hread := read_source hv
  rw [h, read_source hw] at hread
  exact (congrArg Prod.fst hread).symm

/-- Text starts with one longest width, the one that is read. -/
theorem isLongest_iff {w : WidthText} {cs : List Char} : w.IsLongest cs ↔ w = (read cs).1 := by
  constructor
  · intro h
    have hread := isLongest_read cs
    have hlength : w.source.length = (read cs).1.source.length :=
      Nat.le_antisymm (hread.longest w h.wellFormed h.leads)
        (h.longest _ hread.wellFormed hread.leads)
    have hleads := List.prefix_of_prefix_length_le h.leads hread.leads (Nat.le_of_eq hlength)
    exact eq_of_source_eq h.wellFormed hread.wellFormed (hleads.eq_of_length hlength)
  · rintro rfl
    exact isLongest_read cs

/-- The digits of the maximum, if there are any. -/
def maximumDigits (w : WidthText) : List Char := (w.maximum.map (·.2)).getD []

/-- Whether a dash stands behind the point. -/
def dashBehindPoint (w : WidthText) : Bool := w.maximum.any (·.1)

theorem bounded_of_le {digits : List Char} (h : Text.decimalValue digits ≤ FieldWidth.limit) :
    bounded digits = .ok (Text.decimalValue digits) := if_pos h

theorem bounded_of_lt {digits : List Char} (h : FieldWidth.limit < Text.decimalValue digits) :
    bounded digits = .error (.invalidFieldWidth (String.ofList digits) FieldWidth.limit) :=
  if_neg (Nat.not_le.mpr h)

theorem fieldWidth_of_bounded {dash inner : Bool} {minimum digits : List Char} {n m : Nat}
    (hminimum : bounded minimum = .ok n) (hmaximum : bounded digits = .ok m) :
    fieldWidth ⟨dash, minimum, some (inner, digits)⟩ =
      .ok ⟨n, if digits.isEmpty then none else some m, dash, !inner⟩ := by
  simp only [fieldWidth, hminimum, hmaximum]
  rfl

/-- What a width means, from the numbers that are written. -/
theorem fieldWidth_eq (w : WidthText) :
    w.fieldWidth =
      if FieldWidth.limit < Text.decimalValue w.minimum then
        .error (.invalidFieldWidth (String.ofList w.minimum) FieldWidth.limit)
      else if FieldWidth.limit < Text.decimalValue w.maximumDigits then
        .error (.invalidFieldWidth (String.ofList w.maximumDigits) FieldWidth.limit)
      else .ok {
        minimum := Text.decimalValue w.minimum
        maximum := if w.maximumDigits = [] then none else some (Text.decimalValue w.maximumDigits)
        alignLeft := w.dash
        cutLeft := !w.dashBehindPoint } := by
  obtain ⟨dash, minimum, maximum⟩ := w
  by_cases hminimum : FieldWidth.limit < Text.decimalValue minimum
  · simp only [fieldWidth, bounded_of_lt hminimum, if_pos hminimum]
    rfl
  · have hlow := bounded_of_le (Nat.not_lt.mp hminimum)
    rw [if_neg hminimum]
    cases maximum with
    | none =>
      simp only [fieldWidth, hlow]
      rfl
    | some m =>
      obtain ⟨inner, digits⟩ := m
      have hdigits : maximumDigits ⟨dash, minimum, some (inner, digits)⟩ = digits := rfl
      rw [hdigits]
      by_cases hmaximum : FieldWidth.limit < Text.decimalValue digits
      · rw [if_pos hmaximum]
        simp only [fieldWidth, hlow, bounded_of_lt hmaximum]
        rfl
      · have hhigh := bounded_of_le (Nat.not_lt.mp hmaximum)
        rw [if_neg hmaximum, fieldWidth_of_bounded hlow hhigh]
        simp [dashBehindPoint]

/-- Neither number is above 4096, with however many digits it is written. -/
def Acceptable (w : WidthText) : Prop :=
  ∀ digits ∈ [w.minimum, w.maximumDigits], Nat.ofDigitChars 10 digits 0 ≤ 4096

/-- The field width that is written. Its numbers are in base ten, and without digits the maximum
sets no bound; a first dash aligns to the left, and one behind the point cuts at the right end. -/
def meant (w : WidthText) : FieldWidth where
  minimum := Nat.ofDigitChars 10 w.minimum 0
  maximum := if w.maximumDigits = [] then none else some (Nat.ofDigitChars 10 w.maximumDigits 0)
  alignLeft := w.dash
  cutLeft := !w.dashBehindPoint

/-- A width is accepted when both of its numbers are, and then means what is written. -/
theorem fieldWidth_eq_ok_iff {w : WidthText} {width : FieldWidth} :
    w.fieldWidth = .ok width ↔ w.Acceptable ∧ width = w.meant := by
  have hacceptable : w.Acceptable ↔ ¬FieldWidth.limit < Text.decimalValue w.minimum ∧
      ¬FieldWidth.limit < Text.decimalValue w.maximumDigits := by
    rw [Nat.not_lt, Nat.not_lt, Acceptable, List.forall_mem_cons, List.forall_mem_singleton]
    rfl
  rw [fieldWidth_eq, hacceptable]
  by_cases hminimum : FieldWidth.limit < Text.decimalValue w.minimum
  · simp [hminimum]
  · by_cases hmaximum : FieldWidth.limit < Text.decimalValue w.maximumDigits
    · simp [hminimum, hmaximum]
    · rw [if_neg hminimum, if_neg hmaximum, Except.ok.injEq, eq_comm]
      exact (and_iff_right ⟨hminimum, hmaximum⟩).symm

theorem exists_fieldWidth_iff (w : WidthText) :
    (∃ width, w.fieldWidth = .ok width) ↔
      ∀ digits ∈ [w.minimum, w.maximumDigits],
        digits ≠ [] → Text.decimalValue digits ≤ FieldWidth.limit := by
  constructor
  · rintro ⟨width, hwidth⟩ digits hdigits -
    exact (fieldWidth_eq_ok_iff.mp hwidth).1 digits hdigits
  · intro h
    refine ⟨w.meant, fieldWidth_eq_ok_iff.mpr ⟨?_, rfl⟩⟩
    intro digits hdigits
    by_cases hnil : digits = []
    · rw [hnil]
      exact Nat.zero_le _
    · exact h digits hdigits hnil

/-- A width that is accepted keeps to the limit. -/
theorem withinLimit_of_fieldWidth {w : WidthText} {width : FieldWidth}
    (h : w.fieldWidth = .ok width) : width.WithinLimit := by
  obtain ⟨hnumbers, rfl⟩ := fieldWidth_eq_ok_iff.mp h
  refine ⟨hnumbers w.minimum (by simp), ?_⟩
  intro m hm
  obtain ⟨-, hdigits⟩ := Option.ite_none_left_eq_some.mp hm
  cases hdigits
  exact hnumbers w.maximumDigits (by simp)

end LogLayout.Pattern.WidthText
