import LogLayout.Registry
import LogLayout.Text.Numeral
import LogLayout.Text.Quoted

namespace LogLayout

/-- A record in one line: its name, and its fields between braces. -/
def recordSummary (name : String) (fields : List (String × String)) : String :=
  name ++ " \x7b " ++ ", ".intercalate (fields.map fun f => f.1 ++ ": " ++ f.2) ++ " \x7d"

/-- A width in one line. A missing maximum is shown as the largest machine word. -/
def FieldWidth.summary (w : FieldWidth) : String :=
  recordSummary "FormattingInfo" [
    ("min_length", toString w.minimum),
    ("max_length", toString (w.maximum.getD (Text.wordBound - 1))),
    ("left_align", toString w.alignLeft),
    ("left_truncate", toString w.cutLeft)]

/-- A formatter in one line: its converter's name, and its width. -/
def Formatter.summary (f : Formatter) : String :=
  recordSummary "PatternFormatter" [
    ("converter", Text.quote f.converter.name),
    ("info", f.width.summary)]

/-- A registry in one line: the number of its keys, and the keys in order. -/
def Registry.summary (registry : Registry) : String :=
  recordSummary "ConverterRegistry" [
    ("converter_count", toString registry.size),
    ("keys", "[" ++ ", ".intercalate (registry.keys.map Text.quote) ++ "]")]

/-- What compiles patterns, in one line: the registry that it uses. -/
def Registry.compilerSummary (registry : Registry) : String :=
  recordSummary "PatternParser" [("registry", registry.summary)]

end LogLayout
