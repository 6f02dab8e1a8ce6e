import LogLayout.Regex
import LogLayout.Text.Numeral
import LogLayout.Text.Reader

namespace LogLayout.Regex

/-- How often something is repeated. -/
inductive Count where
  | zeroOrOne
  | zeroOrMore
  | oneOrMore
  deriving DecidableEq, Repr

/-- A token of a regular expression. -/
inductive Token where
  | char (c : CharClass)
  | atStart
  | atEnd
  | openGroup
  | closeGroup
  /-- The sign between two of which one is matched. -/
  | bar
  | repeated (count : Count) (greedy : Bool)
  deriving DecidableEq, Repr

open Text (Reader)

/-- Reads the character with a number in some hexadecimal digits. -/
def readNumbered (digits : Nat) : Reader Char :=
  (Reader.take digits fun _ => true).filterMap fun cs =>
    (Text.hexValue? cs).bind Text.charOfNumber?

/-- Whether a backslash before a character makes it stand for itself: the characters of ASCII do
that are neither letters nor digits, but for angle brackets. -/
def isEscapable (c : Char) : Bool :=
  c.toNat < 0x80 && !c.isAlphanum && c ≠ '<' && c ≠ '>'

/-- Reads what a backslash is in front of. -/
def readEscape : Reader Token
  | 'A' :: rest => some (.atStart, rest)
  | 'z' :: rest => some (.atEnd, rest)
  | 'd' :: rest => some (.char .digit, rest)
  | 'D' :: rest => some (.char (.complement .digit), rest)
  | 's' :: rest => some (.char .blank, rest)
  | 'S' :: rest => some (.char (.complement .blank), rest)
  | 'w' :: rest => some (.char .word, rest)
  | 'W' :: rest => some (.char (.complement .word), rest)
  | 'a' :: rest => some (.char (.single '\x07'), rest)
  | 'f' :: rest => some (.char (.single '\x0c'), rest)
  | 't' :: rest => some (.char (.single '\t'), rest)
  | 'n' :: rest => some (.char (.single '\n'), rest)
  | 'r' :: rest => some (.char (.single '\r'), rest)
  | 'v' :: rest => some (.char (.single '\x0b'), rest)
  | 'x' :: rest => ((readNumbered 2).map (.char ∘ .single)) rest
  | 'u' :: rest => ((readNumbered 4).map (.char ∘ .single)) rest
  | 'U' :: rest => ((readNumbered 8).map (.char ∘ .single)) rest
  | c :: rest => if isEscapable c then some (.char (.single c), rest) else none
  | [] => none

/-- The classes of ASCII characters that have names. -/
def namedClasses : List (String × List (Char × Char)) := [
  ("alnum", [('0', '9'), ('A', 'Z'), ('a', 'z')]),
  ("alpha", [('A', 'Z'), ('a', 'z')]),
  ("ascii", [('\x00', '\x7f')]),
  ("blank", [('\t', '\t'), (' ', ' ')]),
  ("cntrl", [('\x00', '\x1f'), ('\x7f', '\x7f')]),
  ("digit", [('0', '9')]),
  ("graph", [('!', '~')]),
  ("lower", [('a', 'z')]),
  ("print", [(' ', '~')]),
  ("punct", [('!', '/'), (':', '@'), ('[', '\x60'), ('{', '~')]),
  ("space", [('\t', '\r'), (' ', ' ')]),
  ("upper", [('A', 'Z')]),
  ("word", [('0', '9'), ('A', 'Z'), ('_', '_'), ('a', 'z')]),
  ("xdigit", [('0', '9'), ('A', 'F'), ('a', 'f')])]

/-- The union of classes. -/
def unionOf (classes : List CharClass) : CharClass :=
  classes.foldr .union .none

/-- Reads a caret, which turns a class into its complement. -/
def readNegation : Reader (CharClass → CharClass)
  | '^' :: rest => some (.complement, rest)
  | cs => some (id, cs)

/-- Reads a named class after its opening bracket. -/
def readNamedClass : Reader CharClass :=
  ((((Reader.exact [':']).thenRead readNegation).and (Reader.takeWhile1 Char.isAlpha)).before
    (Reader.exact [':', ']'])).filterMap fun (negate, name) =>
      (namedClasses.lookup (String.ofList name)).map fun ranges =>
        negate (unionOf (ranges.map fun (first, last) => .range first last))

/-- Reads one character, or one escape, between brackets. -/
def readMember : Reader CharClass
  | '\\' :: rest =>
    readEscape.filterMap (fun
      | .char c => some c
      | _ => none) rest
  | c :: rest => some (.single c, rest)
  | [] => none

/-- Reads a member between brackets, or a range from one character to a later one. A hyphen
before the closing bracket or another hyphen makes no range. -/
def readRange : Reader CharClass := fun cs =>
  match readMember cs with
  | some (first, '-' :: rest) =>
    if rest.head? = some ']' || rest.head? = some '-' then some (first, '-' :: rest)
    else
      match first, readMember rest with
      | .range low _, some (.range high _, rest) =>
        if low.toNat ≤ high.toNat then some (.range low high, rest) else none
      | _, _ => none
  | read => read

/-- Reads a sign between two classes. -/
def readSetSign : Reader (CharClass → CharClass → CharClass)
  | '&' :: '&' :: rest => some (.inter, rest)
  | '-' :: '-' :: rest => some (.diff, rest)
  | '~' :: '~' :: rest => some (.symmDiff, rest)
  | _ => none

/-- Whether what is between brackets ends or is interrupted by a sign. -/
def endsMembers (cs : List Char) : Bool :=
  cs.head?.all (· = ']') || (readSetSign cs).isSome

/-- Reads what stands in front of all else between brackets for itself: hyphens, or else the
closing bracket. -/
def readFirstMembers : Reader (List CharClass) := fun cs =>
  match cs.takeWhile (· = '-'), cs with
  | [], ']' :: rest => some ([.single ']'], rest)
  | hyphens, cs => some (hyphens.map .single, cs.dropWhile (· = '-'))

/-- Reads a class after its opening bracket. There are fewer than `limit` brackets inside each
other. -/
def readBrackets (limit : Nat) : Reader CharClass := fun cs =>
  match limit with
  | 0 => none
  | limit + 1 => do
    let (negate, cs) ← readNegation cs
    let (first, cs) ← readFirstMembers cs
    let member : Reader CharClass := fun cs =>
      if endsMembers cs then none
      else
        match cs with
        | '[' :: rest => (readNamedClass rest).or (readBrackets limit rest)
        | cs => readRange cs
    let members : Reader CharClass := (Reader.many member).map unionOf
    let (start, cs) ← members cs
    let (later, cs) ← (Reader.many (readSetSign.and members)) cs
    let whole := later.foldl (fun a (sign, b) => sign a b) (.union (unionOf first) start)
    match cs with
    | ']' :: rest => return (negate whole, rest)
    | _ => none

/-- Reads the question mark that makes a repetition prefer few. -/
def readGreed : Reader Bool
  | '?' :: rest => some (false, rest)
  | cs => some (true, cs)

/-- Reads a token. -/
def readToken : Reader Token
  | '.' :: rest => some (.char (.complement (.single '\n')), rest)
  | '^' :: rest => some (.atStart, rest)
  | '$' :: rest => some (.atEnd, rest)
  | '|' :: rest => some (.bar, rest)
  | '(' :: '?' :: ':' :: rest => some (.openGroup, rest)
  | '(' :: '?' :: _ => none
  | '(' :: rest => some (.openGroup, rest)
  | ')' :: rest => some (.closeGroup, rest)
  | '?' :: rest => (readGreed.map (.repeated .zeroOrOne)) rest
  | '*' :: rest => (readGreed.map (.repeated .zeroOrMore)) rest
  | '+' :: rest => (readGreed.map (.repeated .oneOrMore)) rest
  | '{' :: _ => none
  | '[' :: rest => ((readBrackets (rest.length + 1)).map .char) rest
  | '\\' :: rest => readEscape rest
  | c :: rest => some (.char (.single c), rest)
  | [] => none

/-- The tokens of text. -/
def tokens? (s : String) : Option (List Token) :=
  match Reader.many readToken s.toList with
  | some (tokens, []) => some tokens
  | _ => none

end LogLayout.Regex
