import LogLayout.Yaml.Quoted

namespace LogLayout.Yaml

/-- Whether a character parts or ends flow collections. -/
def isFlowIndicator (x : Char) : Bool :=
  x = ',' || x = '[' || x = ']' || x = '{' || x = '}'

/-- Whether a plain scalar cannot go on here, apart from blanks and line breaks. -/
def endsPlain (inFlow : Bool) (c : Cursor) : Bool :=
  c.atEnd || (c.atChar ':' && c.gapAhead 1) || (inFlow && c.next isFlowIndicator)

/-- Reads the blanks and line breaks after a piece of a plain scalar. In a block, a tab must not
stand in the indentation of a line. -/
def readGap (indent : Nat) (t : QuotedText) (c : Cursor) : Option (QuotedText × Cursor) :=
  c.iterate (fun (t : QuotedText) c =>
    match c.rest with
    | x :: _ =>
      if isBlank x then
        if t.breaks.isSome && c.column < indent && x == '\t' then none
        else some (.more (t.pushBlank x) (c.skip 1))
      else if isBreak x then
        let (b, after) := c.readBreak
        some (.more (t.pushBreak b) after)
      else some (.done t c)
    | [] => some (.done t c)) t

/-- What a plain scalar is, with whether line breaks follow it. -/
structure PlainScalar where
  text : String
  /-- Line breaks were passed over after the text. -/
  breaksAfter : Bool

/-- The text read so far; a gap at its end does not count. -/
def QuotedText.plain (t : QuotedText) : PlainScalar :=
  ⟨String.ofList t.reversed.reverse, t.breaks.isSome⟩

/-- Reads a plain scalar whose lines are indented by `indent` at least. Inside flow collections
the indentation does not count, and a colon must not stand before an indicator. -/
def readPlain (inFlow : Bool) (indent : Nat) (c : Cursor) : Option (PlainScalar × Cursor) :=
  c.iterate (fun (t : QuotedText) c =>
    let outside := !inFlow && t.breaks.isSome && c.column < indent
    let comment := c.atChar '#' && (t.breaks.isSome || !t.blanks.isEmpty)
    if outside || comment || c.atDocumentMarker || endsPlain inFlow c then some (.done t.plain c)
    else if inFlow && c.atChar ':' && c.ahead 1 (fun x => x == '?' || isFlowIndicator x) then none
    else
      match c.rest with
      | x :: _ =>
        if isBlank x || isBreak x then do
          let (t, after) ← readGap indent t c
          return .more t after
        else some (.more (t.push x) (c.skip 1))
      | [] => some (.done t.plain c)) {}

end LogLayout.Yaml
