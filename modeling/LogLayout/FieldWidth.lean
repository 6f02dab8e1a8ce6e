import LogLayout.Text.Offset

namespace LogLayout

/-- How wide a field is made, and at which end it is padded or cut. -/
structure FieldWidth where
  /-- Shorter text is padded to this many characters. -/
  minimum : Nat := 0
  /-- Longer text is cut to this many characters; `none` leaves it whole. -/
  maximum : Option Nat := none
  /-- Text stands at the left of its padding rather than at the right. -/
  alignLeft : Bool := false
  /-- A cut takes characters off the left end rather than off the right. -/
  cutLeft : Bool := true
  deriving DecidableEq, Repr, Inhabited

namespace FieldWidth

/-- The largest minimum or maximum that a pattern may ask for. -/
def limit : Nat := 4096

/-- Whether this is the width of a field written without one. -/
def isDefault (w : FieldWidth) : Bool := w = {}

/-- Adds spaces up to the minimum width. -/
def pad (w : FieldWidth) (field : List Char) : List Char :=
  let gap := List.replicate (w.minimum - field.length) ' '
  if w.alignLeft then field ++ gap else gap ++ field

/-- Keeps `m` characters of a longer field. -/
def cut (w : FieldWidth) (m : Nat) (field : List Char) : List Char :=
  if w.cutLeft then field.drop (field.length - m) else field.take m

/-- The characters of a field brought to its width: a field above the maximum is cut, and one
that is not cut is padded to the minimum. -/
def fitChars (w : FieldWidth) (field : List Char) : List Char :=
  match w.maximum with
  | some m => if m < field.length then w.cut m field else w.pad field
  | none => w.pad field

/-- A field brought to its width. -/
def fit (w : FieldWidth) (field : String) : String :=
  String.ofList (w.fitChars field.toList)

/-- Brings the end of a buffer to its width in place: the field is what stands from byte offset
`start` on. A cut at the left takes bytes out right behind `start`, one at the right shortens the
buffer, and padding goes to its end or in at `start`. -/
def fitFrom (w : FieldWidth) (start : Nat) (buffer : String) : String :=
  let field := (Text.startingAt buffer start).toList
  match w.maximum.filter (· < field.length) with
  | some m =>
    if w.cutLeft then
      Text.upTo buffer start ++
        Text.startingAt buffer (start + Text.charOffset (field.length - m) field)
    else Text.upTo buffer (start + Text.charOffset m field)
  | none =>
    if field.length < w.minimum then
      let gap := String.ofList (List.replicate (w.minimum - field.length) ' ')
      if w.alignLeft then buffer ++ gap
      else Text.upTo buffer start ++ gap ++ Text.startingAt buffer start
    else buffer

/-- A field that is long enough gets no padding. -/
theorem pad_of_minimum_le {w : FieldWidth} {field : List Char} (h : w.minimum ≤ field.length) :
    w.pad field = field := by
  simp [pad, Nat.sub_eq_zero_of_le h]

/-- Text without a width of its own stays as it is. -/
theorem fitChars_default (field : List Char) : ({} : FieldWidth).fitChars field = field := by
  simp [fitChars, pad]

@[simp] theorem fit_default (field : String) : ({} : FieldWidth).fit field = field := by
  rw [fit, fitChars_default, String.ofList_toList]

theorem eq_default_of_isDefault {w : FieldWidth} (h : w.isDefault = true) : w = {} := by
  simpa [isDefault] using h

/-- The characters of a fitted field, by whether the maximum is exceeded. -/
theorem fitChars_eq (w : FieldWidth) (field : List Char) :
    w.fitChars field =
      match w.maximum.filter (· < field.length) with
      | some m => w.cut m field
      | none => w.pad field := by
  cases hmaximum : w.maximum with
  | none => simp [fitChars, hmaximum]
  | some m =>
    by_cases hlong : m < field.length
    · simp [fitChars, hmaximum, hlong, Option.filter]
    · simp [fitChars, hmaximum, hlong, Option.filter]

/-- Fitting in place what was appended to a buffer leaves the buffer, followed by the field at its
width: what stood before the field is neither moved nor changed. -/
theorem fitFrom_append (w : FieldWidth) (buffer field : String) :
    w.fitFrom buffer.utf8ByteSize (buffer ++ field) = buffer ++ w.fit field := by
  simp only [fitFrom, fit, fitChars_eq, Text.startingAt_append, Text.upTo_append,
    Text.startingAt_append_charOffset, Text.upTo_append_charOffset]
  cases w.maximum.filter (· < field.toList.length) with
  | some m => cases hcut : w.cutLeft <;> simp [cut, hcut]
  | none =>
    by_cases hshort : field.toList.length < w.minimum
    · cases halign : w.alignLeft <;>
        simp only [pad, halign, if_pos hshort, if_true, Bool.false_eq_true, if_false,
          String.ofList_append, String.ofList_toList, String.append_assoc]
    · simp only [if_neg hshort, pad_of_minimum_le (Nat.le_of_not_lt hshort), String.ofList_toList]

end FieldWidth

end LogLayout
