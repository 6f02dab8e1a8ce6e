import LogLayout.ConverterError
import LogLayout.FieldWidth
import LogLayout.Text.Numeral

namespace LogLayout.Pattern

/-- The written form of a width, `[-]digits[.[-]digits]`. Every piece may be missing. -/
structure WidthText where
  /-- A first dash aligns the field to the left. -/
  dash : Bool := false
  /-- The digits of the minimum. -/
  minimum : List Char := []
  /-- What follows a point: whether a dash does, and the digits of the maximum. -/
  maximum : Option (Bool × List Char) := none
  deriving DecidableEq, Repr

namespace WidthText

/-- A dash if there is one, and what follows it. -/
def readDash : List Char → Bool × List Char
  | [] => (false, [])
  | c :: cs => if c = '-' then (true, cs) else (false, c :: cs)

/-- The point with what belongs to it, and what follows. -/
def readMaximum : List Char → Option (Bool × List Char) × List Char
  | [] => (none, [])
  | c :: cs =>
    if c = '.' then
      let (dash, digits) := readDash cs
      (some (dash, digits.takeWhile Char.isDigit), digits.dropWhile Char.isDigit)
    else (none, c :: cs)

/-- Reads the width part at the start of text, and gives what follows it. The part is always read
whole, and only then are its numbers looked at. -/
def read (cs : List Char) : WidthText × List Char :=
  let (dash, digits) := readDash cs
  let (maximum, rest) := readMaximum (digits.dropWhile Char.isDigit)
  ({ dash, minimum := digits.takeWhile Char.isDigit, maximum }, rest)

/-- A dash or nothing. -/
def dashSource (dash : Bool) : List Char :=
  if dash then ['-'] else []

/-- The width as it is written. -/
def source (w : WidthText) : List Char :=
  dashSource w.dash ++ w.minimum ++
    match w.maximum with
    | none => []
    | some (dash, digits) => '.' :: (dashSource dash ++ digits)

/-- The number of some digits, unless it is above the limit. -/
def bounded (digits : List Char) : Except ConverterError Nat :=
  if Text.decimalValue digits ≤ FieldWidth.limit then .ok (Text.decimalValue digits)
  else .error (.invalidFieldWidth (String.ofList digits) FieldWidth.limit)

/-- The field width that is meant. No digits set no bound; of two numbers above the limit the
minimum is the one complained of. A dash after the point cuts fields at their right end. -/
def fieldWidth (w : WidthText) : Except ConverterError FieldWidth := do
  let minimum ← bounded w.minimum
  match w.maximum with
  | none => return { minimum, alignLeft := w.dash }
  | some (dash, digits) =>
    let maximum ← bounded digits
    return {
      minimum, alignLeft := w.dash, cutLeft := !dash
      maximum := if digits.isEmpty then none else some maximum }

theorem dashSource_append_rest (cs : List Char) :
    dashSource (readDash cs).1 ++ (readDash cs).2 = cs := by
  cases cs with
  | nil => rfl
  | cons c cs => by_cases hc : c = '-' <;> simp [readDash, dashSource, hc]

/-- A width written back and followed by the rest gives the text that was read. -/
theorem source_append_rest (cs : List Char) : (read cs).1.source ++ (read cs).2 = cs := by
  have hmaximum : ∀ ds : List Char,
      (match (readMaximum ds).1 with
        | none => []
        | some (dash, digits) => '.' :: (dashSource dash ++ digits)) ++
          (readMaximum ds).2 = ds := by
    intro ds
    cases ds with
    | nil => rfl
    | cons d ds =>
      by_cases hd : d = '.'
      · simp [readMaximum, hd, dashSource_append_rest]
      · simp [readMaximum, hd]
  simp only [read, source, List.append_assoc, hmaximum, List.takeWhile_append_dropWhile,
    dashSource_append_rest]

end WidthText

end LogLayout.Pattern
