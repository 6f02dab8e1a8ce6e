import LogLayout.Text.Numeral
import LogLayout.Text.Reader

namespace LogLayout.Toml

open Text (Reader)

/-- Space and tab. -/
def isBlank (c : Char) : Bool := c = ' ' || c = '\t'

/-- The characters of comments and literal strings: no control character but the tab. -/
def isVisible (c : Char) : Bool :=
  c = '\t' || (0x20 ≤ c.toNat && c.toNat ≠ 0x7F)

/-- Blanks, if there are any. -/
def blanks : Reader Unit := Reader.skipWhile isBlank

/-- The end of a line. -/
def newline : Reader Unit :=
  (Reader.exact ['\n']).orElse (Reader.exact ['\r', '\n'])

/-- A comment up to the end of its line. -/
def comment : Reader Unit :=
  (Reader.exact ['#']).thenRead (Reader.skipWhile isVisible)

/-- The end of a line or of the text. -/
def lineEnd : Reader Unit
  | [] => some ((), [])
  | cs => newline cs

/-- What may follow a statement on its line. -/
def trailing : Reader Unit :=
  blanks.thenRead ((Reader.optional comment).thenRead lineEnd)

/-- Blanks, line ends and comments. -/
def gap : Reader Unit :=
  (Reader.many (((Reader.satisfy isBlank).map fun _ => ()).orElse
    (newline.orElse comment))).map fun _ => ()

/-- The character of a number of hexadecimal digits. -/
def numericEscape (digits : Nat) : Reader Char :=
  (Reader.take digits fun _ => true).filterMap fun cs =>
    (Text.hexValue? cs).bind Text.charOfNumber?

/-- The character of a one-letter escape. -/
def escapedChar? (c : Char) : Option Char :=
  match c with
  | 'b' => some '\x08'
  | 't' => some '\t'
  | 'n' => some '\n'
  | 'f' => some '\x0c'
  | 'r' => some '\r'
  | '"' => some '"'
  | '\\' => some '\\'
  | _ => none

/-- An escape. -/
def escape : Reader Char :=
  (Reader.exact ['\\']).thenRead
    (((Reader.exact ['u']).thenRead (numericEscape 4)).orElse
      (((Reader.exact ['U']).thenRead (numericEscape 8)).orElse
        ((Reader.satisfy fun _ => true).filterMap escapedChar?)))

/-- A character of a basic string that stands for itself. -/
def unescaped : Reader Char :=
  Reader.satisfy fun c => isVisible c && c ≠ '"' && c ≠ '\\'

/-- A character of a literal string. -/
def literalChar : Reader Char :=
  Reader.satisfy fun c => isVisible c && c ≠ '\x27'

/-- A string between single double quotes. -/
def basicString : Reader (List Char) :=
  (Reader.exact ['"']).thenRead
    ((Reader.many (unescaped.orElse escape)).before (Reader.exact ['"']))

/-- A string between single quotes, without escapes. -/
def literalString : Reader (List Char) :=
  (Reader.exact ['\x27']).thenRead ((Reader.many literalChar).before (Reader.exact ['\x27']))

/-- A line break in a string of several lines; however it is written, it is a line feed. -/
def lineBreak : Reader (List Char) := newline.map fun _ => ['\n']

/-- A backslash at the end of a line, which hides the break and the blanks that follow. -/
def hiddenBreak : Reader (List Char) :=
  ((Reader.exact ['\\']).thenRead (blanks.thenRead (newline.thenRead
    (Reader.many (((Reader.satisfy isBlank).map fun _ => ()).orElse newline))))).map fun _ => []

/-- A quote that does not start the end of a string of several lines. -/
def innerQuote (quote : Char) : Reader (List Char) := fun cs =>
  if [quote, quote, quote].isPrefixOf cs then none
  else ((Reader.exact [quote]).map fun _ => [quote]) cs

/-- The quotes that end a string of several lines. Two more than needed belong to the string. -/
def closingQuotes (quote : Char) : Reader (List Char) := fun cs =>
  let count := (cs.takeWhile (· == quote)).length
  if count < 3 then none
  else
    let extra := min (count - 3) 2
    some (List.replicate extra quote, cs.drop (extra + 3))

/-- A string of several lines. A line break right after the opening quotes does not count. -/
def longString (quote : Char) (piece : Reader (List Char)) : Reader (List Char) :=
  (Reader.exact [quote, quote, quote]).thenRead ((Reader.optional newline).thenRead
    (((Reader.many (piece.orElse (innerQuote quote))).and (closingQuotes quote)).map
      fun (pieces, extra) => pieces.flatten ++ extra))

/-- A string of any kind. -/
def string : Reader String :=
  ((longString '"' ((unescaped.map fun c => [c]).orElse
      (hiddenBreak.orElse ((escape.map fun c => [c]).orElse lineBreak)))).orElse
    (basicString.orElse
      ((longString '\x27' ((literalChar.map fun c => [c]).orElse lineBreak)).orElse
        literalString))).map String.ofList

/-- One part of a key. -/
def keyPart : Reader String :=
  (basicString.orElse (literalString.orElse
    (Reader.takeWhile1 fun c => c.isAlphanum || c = '_' || c = '-'))).map String.ofList

/-- The limit on the parts of a key, and on the depth of values. -/
def depthLimit : Nat := 80

/-- A key: parts with dots between them, all but the last as a path. -/
def key : Reader (List String × String) :=
  (Reader.separated (blanks.thenRead (keyPart.before blanks)) (Reader.exact ['.'])).filterMap
    fun parts =>
      if parts.length < depthLimit then
        parts.getLast?.map fun last => (parts.dropLast, last)
      else none

end LogLayout.Toml
