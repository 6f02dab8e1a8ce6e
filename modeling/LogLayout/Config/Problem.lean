import LogLayout.Config
import LogLayout.Diagnostic
import LogLayout.Text.Blank

namespace LogLayout

/-- What is wrong with a configuration. -/
inductive Problem where
  | noLayouts
  /-- The identifier of the layout at an index is blank; indices count from zero. -/
  | emptyLayoutId (index : Nat)
  /-- An earlier layout has the same identifier. -/
  | duplicateLayoutId (layoutId : String)
  | emptyPattern (layoutId : String)
  deriving DecidableEq, Repr

namespace Problem

/-- The problem in words. -/
def text : Problem → String
  | .noLayouts => "Configuration defines no layouts"
  | .emptyLayoutId index => s!"Layout at index {index} has an empty ID"
  | .duplicateLayoutId layoutId => s!"Duplicate layout ID: '{layoutId}'"
  | .emptyPattern layoutId => s!"Layout '{layoutId}' has an empty pattern"

/-- How the problem is reported. -/
def diagnostic : Problem → Diagnostic
  | .noLayouts => .noLayoutsConfigured
  | .emptyLayoutId index => .emptyLayoutId index
  | .duplicateLayoutId layoutId => .duplicateLayoutId layoutId
  | .emptyPattern layoutId => .emptyPattern layoutId

end Problem

/-- What is wrong with the identifier of the layout at an index, after the identifiers `seen`. -/
def LayoutConfig.idProblems (seen : List String) (index : Nat) (l : LayoutConfig) :
    List Problem :=
  if Text.isBlankText l.id then [.emptyLayoutId index]
  else if l.id ∈ seen then [.duplicateLayoutId l.id]
  else []

/-- What is wrong with the pattern of a layout. -/
def LayoutConfig.patternProblems (l : LayoutConfig) : List Problem :=
  if l.pattern = "" then [.emptyPattern l.id] else []

/-- The problems of layouts that follow `seen`, the first of them at an index. -/
def layoutProblems (seen : List String) (index : Nat) : List LayoutConfig → List Problem
  | [] => []
  | l :: rest =>
    l.idProblems seen index ++ l.patternProblems ++ layoutProblems (l.id :: seen) (index + 1) rest

/-- Everything that is wrong with a configuration, in the order of its layouts. What a pattern says
is not looked at, since every pattern compiles. -/
def Config.problems (c : Config) : List Problem :=
  if c.layouts.isEmpty then [.noLayouts] else layoutProblems [] 0 c.layouts

/-- A configuration without problems, or all its problems. -/
def Config.validate (c : Config) : Except (List Problem) Config :=
  if c.problems.isEmpty then .ok c else .error c.problems

end LogLayout
