import LogLayout.Text.Offset

namespace LogLayout.Yaml

/-- Whether YAML text may hold a character at all. -/
def isAllowed (c : Char) : Bool :=
  let n := c.toNat
  n == 0x09 || n == 0x0A || n == 0x0D || (0x20 ≤ n && n ≤ 0x7E) || n == 0x85 ||
    (0xA0 ≤ n && n ≤ 0xFFFD) || 0x10000 ≤ n

/-- Space and tab. -/
def isBlank (c : Char) : Bool := c = ' ' || c = '\t'

/-- The characters that end a line. -/
def isBreak (c : Char) : Bool :=
  c = '\r' || c = '\n' || c = '\x85' || c = '\u2028' || c = '\u2029'

/-- The characters of anchors, tag handles and directive names. -/
def isWord (c : Char) : Bool := c.isAlphanum || c = '_' || c = '-'

/-- A place in text. -/
structure Cursor where
  /-- What is still to be read. -/
  rest : List Char
  /-- The number of bytes before the place. -/
  index : Nat := 0
  line : Nat := 0
  /-- The number of characters before the place in its line. -/
  column : Nat := 0

namespace Cursor

/-- Whether nothing is left. -/
def atEnd (c : Cursor) : Bool := c.rest.isEmpty

/-- Whether the character `n` places ahead passes a test; there is none past the end. -/
def ahead (c : Cursor) (n : Nat) (p : Char → Bool) : Bool :=
  (c.rest.drop n).head?.any p

/-- Whether the next character passes a test. -/
def next (c : Cursor) (p : Char → Bool) : Bool := c.ahead 0 p

/-- Whether the next character is the one given. -/
def atChar (c : Cursor) (x : Char) : Bool := c.next (· == x)

/-- Whether a blank, a line break or the end stands `n` places ahead. -/
def gapAhead (c : Cursor) (n : Nat) : Bool :=
  (c.rest.drop n).head?.all fun x => isBlank x || isBreak x

/-- The number of bytes before the place that is `n` characters ahead. -/
def indexAhead (c : Cursor) (n : Nat) : Nat :=
  c.index + Text.byteSize (c.rest.take n)

/-- Passes over characters of the same line. -/
def skip (c : Cursor) (n : Nat) : Cursor :=
  { c with rest := c.rest.drop n, index := c.indexAhead n, column := c.column + n }

/-- Passes over characters of the same line for as long as they pass a test. -/
def skipWhile (c : Cursor) (p : Char → Bool) : Cursor :=
  c.skip (c.rest.takeWhile p).length

/-- Passes over a line break, and gives the break that it stands for: the two characters that
part paragraphs stay as they are, and all others count as a line feed. At other characters there
is no break. -/
def readBreak (c : Cursor) : List Char × Cursor :=
  let nextLine (n : Nat) : Cursor :=
    { rest := c.rest.drop n, index := c.indexAhead n, line := c.line + 1, column := 0 }
  match c.rest with
  | '\r' :: '\n' :: _ => (['\n'], nextLine 2)
  | x :: _ =>
    if x = '\u2028' ∨ x = '\u2029' then ([x], nextLine 1)
    else if isBreak x then (['\n'], nextLine 1)
    else ([], c)
  | [] => ([], c)

/-- Passes over a line break if there is one. -/
def skipBreak (c : Cursor) : Cursor := c.readBreak.2

/-- Passes over blanks, and over a comment to the end of its line. -/
def skipComment (c : Cursor) : Cursor :=
  let c := c.skipWhile isBlank
  if c.atChar '#' then c.skipWhile (!isBreak ·) else c

/-- Whether a line break or the end comes next. -/
def atLineEnd (c : Cursor) : Bool := c.rest.head?.all isBreak

/-- Whether a document marker, made of three times the given character, stands at the start of
the line. -/
def atMarker (c : Cursor) (x : Char) : Bool :=
  c.column == 0 && c.rest.take 3 == [x, x, x] && c.gapAhead 3

/-- Whether one of the two document markers stands here. -/
def atDocumentMarker (c : Cursor) : Bool := c.atMarker '-' || c.atMarker '.'

/-- What a step of a repeated reading leads to. -/
inductive Step (σ α : Type) where
  | more (state : σ) (cursor : Cursor)
  | done (result : α) (cursor : Cursor)

/-- Repeats a step until it is done, `limit` times at most. -/
def iterateWithin {σ α : Type} (step : σ → Cursor → Option (Step σ α)) :
    Nat → σ → Cursor → Option (α × Cursor)
  | 0, _, _ => none
  | limit + 1, state, c =>
    match step state c with
    | none => none
    | some (.done result after) => some (result, after)
    | some (.more state after) => iterateWithin step limit state after

/-- Repeats a step until it is done. A step that asks for more reads at least one character, so
there are no more steps than characters, and one that is done. -/
def iterate {σ α : Type} (step : σ → Cursor → Option (Step σ α)) (state : σ) (c : Cursor) :
    Option (α × Cursor) :=
  iterateWithin step (c.rest.length + 1) state c

end Cursor

/-- What folding makes of line breaks between two pieces of text: a single line feed is a space,
the first of several is dropped, and a break that parts paragraphs stays. -/
def foldBreaks (first later : List Char) : List Char :=
  if first.head? = some '\n' then if later.isEmpty then [' '] else later else first ++ later

end LogLayout.Yaml
