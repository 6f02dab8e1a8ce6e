import LogLayout.Diagnostic
import LogLayout.Regex.Read
import LogLayout.Text.Segments

namespace LogLayout

/-- A test on the value of a field. -/
inductive ValueTest where
  /-- A number or a truth value, as it is written. -/
  | literal (source : String)
  /-- Text that a regular expression finds a match in, at its end. -/
  | pattern (source : String) (regex : Regex)
  deriving DecidableEq, Repr

/-- A test on a field: that it is there, and maybe what its value is. -/
structure FieldTest where
  name : String
  value : Option ValueTest
  deriving DecidableEq, Repr

namespace ValueTest

/-- Whether text is the exponent of a number, or nothing. -/
def isExponent : List Char → Bool
  | [] => true
  | c :: rest =>
    let digits := match rest with
      | '+' :: rest | '-' :: rest => rest
      | rest => rest
    (c = 'e' || c = 'E') && !digits.isEmpty && digits.all Char.isDigit

/-- Whether text is a number with digits before or after its point. -/
def isDecimal (cs : List Char) : Bool :=
  let (whole, rest) := cs.span Char.isDigit
  let (fraction, rest) := match rest with
    | '.' :: rest => rest.span Char.isDigit
    | rest => ([], rest)
  (!whole.isEmpty || !fraction.isEmpty) && isExponent rest

/-- Whether text is a number: a decimal one, an infinite one, or the word for what is none. -/
def isNumber (cs : List Char) : Bool :=
  let magnitude := match cs with
    | '+' :: rest | '-' :: rest => rest
    | cs => cs
  let word := String.ofList (magnitude.map Char.toLower)
  isDecimal magnitude || ["inf", "infinity", "nan"].contains word

/-- Reads a test on a value. -/
def ofText? (s : String) : Option ValueTest :=
  if s = "true" || s = "false" || isNumber s.toList then some (.literal s)
  else (Regex.ofText? s).map (.pattern s)

/-- Whether a value passes. What is written as a number is no text, even if it is the same. -/
def passes (t : ValueTest) (v : FieldValue) : Bool :=
  match t, v with
  | .literal source, .number n => Text.word? source.toList == some n
  | .pattern _ regex, .text s => regex.reachesEnd s
  | _, _ => false

end ValueTest

namespace FieldTest

/-- Reads a test on a field: its name, and a value after an equals sign. What stands after
another one is passed over. -/
def ofText? (s : String) : Option FieldTest :=
  match (Text.segments '=' s.toList).map String.ofList with
  | [] | [""] => none
  | [name] => some ⟨name, none⟩
  | name :: value :: _ => (ValueTest.ofText? value).map fun test => ⟨name, some test⟩

/-- Whether a field is there and has a value that passes. -/
def passes (t : FieldTest) (fields : List (String × FieldValue)) : Bool :=
  (fields.lookup t.name).any fun v => t.value.all (·.passes v)

end FieldTest

end LogLayout
