import LogLayout.Text.Numeral
import LogLayout.Yaml.Cursor

namespace LogLayout.Yaml

/-- What happens to the line breaks at the end of a block scalar. -/
inductive Chomping where
  /-- All are dropped. -/
  | strip
  /-- One is kept. -/
  | clip
  /-- All are kept. -/
  | keep
  deriving DecidableEq, Repr

/-- Reads a sign that asks for a chomping. -/
def readChomping (c : Cursor) : Option (Chomping × Cursor) :=
  if c.atChar '+' then some (.keep, c.skip 1)
  else if c.atChar '-' then some (.strip, c.skip 1)
  else none

/-- Reads a digit that gives the indentation; zero is none. -/
def readIndentation (c : Cursor) : Option (Option Nat × Cursor) :=
  match c.rest.head? with
  | some x =>
    if x.isDigit then if x = '0' then none else some (some (Text.decimalValue [x]), c.skip 1)
    else some (none, c)
  | none => some (none, c)

/-- Reads what follows the indicator of a block scalar: a chomping and an indentation, in either
order, and a comment. -/
def readBlockHeader (c : Cursor) : Option (Chomping × Option Nat × Cursor) := do
  let (chomping, increment, c) ← match readChomping c with
    | some (chomping, c) => do
      let (increment, c) ← readIndentation c
      pure (chomping, increment, c)
    | none => do
      let (increment, c) ← readIndentation c
      match increment, readChomping c with
      | some _, some (chomping, c) => pure (chomping, increment, c)
      | _, _ => pure (.clip, increment, c)
  let c := c.skipComment
  guard c.atLineEnd
  return (chomping, increment, c.skipBreak)

/-- Reads the indentation and the empty lines before a line with text. Gives the breaks, and the
widest column reached. Without a fixed indentation every space counts as indentation; with one, a
tab must not stand in it. -/
def readEmptyLines (indent : Option Nat) (c : Cursor) : Option ((List Char × Nat) × Cursor) :=
  c.iterate (fun (breaks, widest) c =>
    let inside (c : Cursor) : Bool := indent.all (c.column < ·)
    let spaces := (c.rest.takeWhile (· == ' ')).length
    let c := c.skip (match indent with
      | none => spaces
      | some n => min spaces (n - c.column))
    let widest := max widest c.column
    if inside c && c.atChar '\t' then none
    else if c.next isBreak then
      let (b, after) := c.readBreak
      some (.more (breaks ++ b, widest) after)
    else some (.done (breaks, widest) c)) ([], 0)

/-- What has been read of a block scalar. -/
structure BlockText where
  /-- The characters so far, newest first. -/
  reversed : List Char := []
  /-- The break after the last line. -/
  leading : List Char := []
  /-- The breaks of the empty lines after it. -/
  trailing : List Char := []
  /-- Whether the last line starts with a blank; such lines are not folded. -/
  blankStart : Bool := false

namespace BlockText

/-- The break before a line that starts with `blankStart` or without a blank. -/
def gap (t : BlockText) (folded blankStart : Bool) : List Char :=
  if folded && t.leading.head? == some '\n' && !t.blankStart && !blankStart then
    if t.trailing.isEmpty then [' '] else t.trailing
  else t.leading ++ t.trailing

/-- Adds a line with the breaks after it. -/
def addLine (t : BlockText) (folded : Bool) (line leading trailing : List Char) : BlockText :=
  let blankStart := line.head?.any isBlank
  { reversed := line.reverse ++ (t.gap folded blankStart).reverse ++ t.reversed
    leading, trailing, blankStart }

/-- The whole text. -/
def text (t : BlockText) (chomping : Chomping) : String :=
  let tail := match chomping with
    | .strip => []
    | .clip => t.leading
    | .keep => t.leading ++ t.trailing
  String.ofList (t.reversed.reverse ++ tail)

end BlockText

/-- Reads the block scalar at its indicator, inside a block that is indented by `parent`. -/
def readBlock (parent : Int) (c : Cursor) : Option (String × Cursor) := do
  let folded := c.atChar '>'
  let (chomping, increment, c) ← readBlockHeader (c.skip 1)
  let fixed := increment.map fun n => (max parent 0).toNat + n
  let ((trailing, widest), c) ← readEmptyLines fixed c
  let indent := fixed.getD (max widest (max (parent + 1) 1).toNat)
  let (t, c) ← c.iterate (fun t c =>
    if c.column = indent && !c.atEnd then do
      let line := c.rest.takeWhile (!isBreak ·)
      let (leading, c) := (c.skip line.length).readBreak
      let ((trailing, _), c) ← readEmptyLines (some indent) c
      return .more (t.addLine folded line leading trailing) c
    else some (.done t c)) { trailing : BlockText }
  return (t.text chomping, c)

end LogLayout.Yaml
