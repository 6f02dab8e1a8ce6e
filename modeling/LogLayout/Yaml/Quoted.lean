import LogLayout.Text.Numeral
import LogLayout.Yaml.Cursor

namespace LogLayout.Yaml

/-- The character of a one-letter escape. -/
def escapedChar? (c : Char) : Option Char :=
  match c with
  | '0' => some '\x00'
  | 'a' => some '\x07'
  | 'b' => some '\x08'
  | 't' | '\t' => some '\t'
  | 'n' => some '\n'
  | 'v' => some '\x0b'
  | 'f' => some '\x0c'
  | 'r' => some '\r'
  | 'e' => some '\x1b'
  | ' ' => some ' '
  | '"' => some '"'
  | '/' => some '/'
  | '\\' => some '\\'
  | 'N' => some '\x85'
  | '_' => some '\xa0'
  | 'L' => some '\u2028'
  | 'P' => some '\u2029'
  | _ => none

/-- How many digits follow the letter of a numeric escape. -/
def escapeDigits? (c : Char) : Option Nat :=
  match c with
  | 'x' => some 2
  | 'u' => some 4
  | 'U' => some 8
  | _ => none

/-- Reads the escape at a backslash. -/
def readEscape (c : Cursor) : Option (Char × Cursor) := do
  let letter ← (c.rest.drop 1).head?
  match escapeDigits? letter with
  | none => return (← escapedChar? letter, c.skip 2)
  | some count =>
    let digits := (c.rest.drop 2).take count
    guard (digits.length = count)
    return (← Text.charOfNumber? (← Text.hexValue? digits), c.skip (2 + count))

/-- What has been read of a quoted scalar. -/
structure QuotedText where
  /-- The characters so far, newest first. -/
  reversed : List Char := []
  /-- Blanks that were just read on the same line. -/
  blanks : List Char := []
  /-- The first break of the line breaks that were just read, and the later ones. -/
  breaks : Option (List Char × List Char) := none

namespace QuotedText

/-- Settles the blanks and breaks that were just read. -/
def settle (t : QuotedText) : QuotedText :=
  let gap := match t.breaks with
    | none => t.blanks
    | some (first, later) => foldBreaks first later
  { reversed := gap.reverse ++ t.reversed }

/-- Adds a character. -/
def push (t : QuotedText) (c : Char) : QuotedText :=
  let t := t.settle
  { t with reversed := c :: t.reversed }

/-- Adds a blank. Blanks around a line break do not count. -/
def pushBlank (t : QuotedText) (c : Char) : QuotedText :=
  if t.breaks.isSome then t else { t with blanks := t.blanks ++ [c] }

/-- Adds a line break. -/
def pushBreak (t : QuotedText) (b : List Char) : QuotedText :=
  match t.breaks with
  | none => { t with blanks := [], breaks := some (b, []) }
  | some (first, later) => { t with breaks := some (first, later ++ b) }

/-- Adds a line break that is escaped: it joins two lines without a space. -/
def joinLines (t : QuotedText) : QuotedText :=
  { t.settle with breaks := some ([], []) }

/-- The whole text. -/
def text (t : QuotedText) : String := String.ofList t.settle.reversed.reverse

end QuotedText

/-- Reads one piece of a quoted scalar. Neither the end of the text nor a document marker at the
start of a line may stand inside quotes. -/
def quotedStep (quote : Char) (t : QuotedText) (c : Cursor) :
    Option (Cursor.Step QuotedText String) :=
  match c.rest with
  | [] => none
  | x :: _ =>
    if c.atDocumentMarker then none
    else if isBlank x then some (.more (t.pushBlank x) (c.skip 1))
    else if isBreak x then
      let (b, after) := c.readBreak
      some (.more (t.pushBreak b) after)
    else if x = quote then
      if quote = '\x27' ∧ c.ahead 1 (· == quote) then some (.more (t.push quote) (c.skip 2))
      else some (.done t.text (c.skip 1))
    else if x = '\\' ∧ quote = '"' then
      if c.ahead 1 isBreak then some (.more t.joinLines (c.skip 1).skipBreak)
      else do
        let (y, after) ← readEscape c
        return .more (t.push y) after
    else some (.more (t.push x) (c.skip 1))

/-- Reads the quoted scalar at its opening quote. -/
def readQuoted (c : Cursor) : Option (String × Cursor) := do
  let quote ← c.rest.head?
  (c.skip 1).iterate (quotedStep quote) {}

end LogLayout.Yaml
