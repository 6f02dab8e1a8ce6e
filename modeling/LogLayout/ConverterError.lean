namespace LogLayout

/-- Why a converter was not made. -/
inductive ConverterError where
  | incorrectOptionCount (converter : String) (expected received : Nat)
  | missingPattern (converter : String)
  | missingTestString (converter : String)
  | missingSubstitution (converter : String)
  /-- No converter is registered under the key. -/
  | unknownConverter (key : String)
  | invalidOption (converter option reason : String)
  /-- The digits of a width stand for a number above the limit. -/
  | invalidFieldWidth (width : String) (limit : Nat)
  deriving DecidableEq, Repr

/-- What is said of the failure. -/
def ConverterError.message : ConverterError → String
  | .incorrectOptionCount converter expected received =>
    s!"Incorrect number of options on {converter}. Expected {expected} received {received}"
  | .missingPattern converter => s!"No pattern supplied on {converter}"
  | .missingTestString converter => s!"No test string supplied on {converter}"
  | .missingSubstitution converter => s!"No substitution supplied on {converter}"
  | .unknownConverter key => s!"Unrecognized conversion specifier '{key}'"
  | .invalidOption converter option reason =>
    s!"Invalid option '{option}' on {converter}: {reason}"
  | .invalidFieldWidth width limit => s!"Invalid field width '{width}': must be at most {limit}"

end LogLayout
