import LogLayout.Text.Utf8
import LogLayout.Yaml.Quoted
import LogLayout.Yaml.Token

namespace LogLayout.Yaml

/-- Reads characters for as long as they are those of a word. -/
def readWord (c : Cursor) : String × Cursor :=
  let word := c.rest.takeWhile isWord
  (String.ofList word, c.skip word.length)

/-- Reads the name of an anchor or alias after its indicator. A blank, or one of the characters
that may follow a node, has to come after it. -/
def readName (c : Cursor) : Option (String × Cursor) := do
  let (name, after) := readWord c
  guard (name ≠ "" && (after.gapAhead 0 || after.next ("?:,]\x7d%@\x60".toList.contains ·)))
  return (name, after)

/-- The characters of a tag besides those of words; the second kind only stands in tags between
angle brackets and in directives. -/
def isTagChar (verbatim : Bool) (x : Char) : Bool :=
  isWord x || ";/?:@&=+$.%!~*'()".toList.contains x || (verbatim && ",[]".toList.contains x)

/-- How many bytes a character takes that starts with a byte. -/
def byteCount? (b : Nat) : Option Nat :=
  if b < 0x80 then some 1
  else if 0xC0 ≤ b ∧ b < 0xE0 then some 2
  else if 0xE0 ≤ b ∧ b < 0xF0 then some 3
  else if 0xF0 ≤ b ∧ b < 0xF8 then some 4
  else none

/-- Reads one byte that is written with a percent sign. -/
def readOctet (c : Cursor) : Option (Nat × Cursor) := do
  guard (c.atChar '%')
  let digits := (c.rest.drop 1).take 2
  guard (digits.length = 2)
  return (← Text.hexValue? digits, c.skip 3)

/-- Reads further bytes of a character. -/
def readOctets : Nat → Cursor → Option (List Nat × Cursor)
  | 0, c => some ([], c)
  | n + 1, c => do
    let (b, c) ← readOctet c
    guard (0x80 ≤ b && b < 0xC0)
    let (later, c) ← readOctets n c
    return (b :: later, c)

/-- Reads one character that is written byte by byte. Bytes that are no text after all stand for
the replacement character, which no known tag holds. -/
def readEscapedChar (c : Cursor) : Option (List Char × Cursor) := do
  let (first, after) ← readOctet c
  let (later, after) ← readOctets ((← byteCount? first) - 1) after
  match Utf8.decode ((first :: later).map UInt8.ofNat) with
  | .ok s => return (s.toList, after)
  | .error _ => return (['\ufffd'], after)

/-- Reads the characters of a tag. -/
def readTagChars (verbatim : Bool) (c : Cursor) : Option (String × Cursor) :=
  c.iterate (fun (reversed : List Char) c =>
    match c.rest with
    | x :: _ =>
      if x = '%' then do
        let (cs, after) ← readEscapedChar c
        return .more (cs.reverse ++ reversed) after
      else if isTagChar verbatim x then some (.more (x :: reversed) (c.skip 1))
      else some (.done (String.ofList reversed.reverse) c)
    | [] => some (.done (String.ofList reversed.reverse) c)) []

/-- What a tag keeps of text: all in front of the first NUL. -/
def beforeNul (s : String) : String :=
  String.ofList (s.toList.takeWhile (· ≠ '\x00'))

/-- Reads an exclamation mark, the word after it, and another mark if there is one. -/
def readHandle (c : Cursor) : Option (String × Cursor) := do
  guard (c.atChar '!')
  let (word, after) := readWord (c.skip 1)
  if after.atChar '!' then return ("!" ++ word ++ "!", after.skip 1)
  else return ("!" ++ word, after)

/-- Whether a handle is closed by an exclamation mark of its own. -/
def isClosedHandle (handle : String) : Bool :=
  1 < handle.length && handle.toList.getLast? == some '!'

/-- Reads the tag at its exclamation mark. -/
def readTag (inFlow : Bool) (c : Cursor) : Option (TagText × Cursor) := do
  let (tag, after) ←
    if c.ahead 1 (· == '<') then do
      let (suffix, after) ← readTagChars true (c.skip 2)
      guard (suffix ≠ "" && after.atChar '>')
      pure (({ handle := "", suffix := beforeNul suffix } : TagText), after.skip 1)
    else do
      let (handle, after) ← readHandle c
      if isClosedHandle handle then do
        let (suffix, after) ← readTagChars false after
        guard (suffix ≠ "")
        pure ({ handle, suffix := beforeNul suffix }, after)
      else do
        let (suffix, after) ← readTagChars false after
        let whole := String.ofList (handle.toList.drop 1) ++ suffix
        if whole = "" then pure ({ handle := "", suffix := "!" }, after)
        else pure ({ handle := "!", suffix := beforeNul whole }, after)
  guard (after.gapAhead 0 || (inFlow && after.atChar ','))
  return (tag, after)

/-- Reads a number of at most nine digits. -/
def readVersionNumber (c : Cursor) : Option (Nat × Cursor) := do
  let digits := c.rest.takeWhile Char.isDigit
  guard (0 < digits.length && digits.length ≤ 9)
  return (Text.decimalValue digits, c.skip digits.length)

/-- Reads the directive at its percent sign, to the end of its line. -/
def readDirective (c : Cursor) : Option (Token × Cursor) := do
  let (name, c) := readWord (c.skip 1)
  guard (name ≠ "" && c.gapAhead 0)
  let (token, c) ←
    if name = "YAML" then do
      let (major, c) ← readVersionNumber (c.skipWhile isBlank)
      guard (c.atChar '.')
      let (minor, c) ← readVersionNumber (c.skip 1)
      pure (Token.version major minor, c)
    else if name = "TAG" then do
      let (handle, c) ← readHandle (c.skipWhile isBlank)
      guard ((handle = "!" || isClosedHandle handle) && c.next isBlank)
      let (start, c) ← readTagChars true (c.skipWhile isBlank)
      guard (start ≠ "" && c.gapAhead 0)
      pure (Token.tagHandle handle (beforeNul start), c)
    else none
  let c := c.skipComment
  guard c.atLineEnd
  return (token, c.skipBreak)

end LogLayout.Yaml
