import LogLayout.Toml.Text

namespace LogLayout.Toml

open Text (Reader)

/-- The number that digits stand for in a base. -/
def digitsValue (base : Nat) (digits : List Char) : Nat :=
  digits.foldl (fun n c => n * base + (Text.hexDigit? c).getD 0) 0

/-- Digits, where single underscores may part any two. -/
def digitRun (p : Char → Bool) : Reader (List Char) :=
  ((Reader.satisfy p).and (Reader.many ((Reader.satisfy p).orElse
    ((Reader.exact ['_']).thenRead (Reader.satisfy p))))).map fun (c, cs) => c :: cs

/-- A sign, if there is one. -/
def sign : Reader (Option Char) :=
  Reader.optional (Reader.satisfy fun c => c = '+' || c = '-')

/-- The digits of a whole number: no zero stands in front of others. -/
def wholeDigits : Reader (List Char) := fun cs =>
  match cs with
  | '0' :: rest => some (['0'], rest)
  | _ => digitRun Char.isDigit cs

/-- A whole number, unless it takes more than 64 bits. -/
def word? (negative : Bool) (n : Nat) : Option Int :=
  if n < Text.wordBound / 2 then some (if negative then -n else n)
  else if negative ∧ n = Text.wordBound / 2 then some (-n) else none

/-- A whole number in another base after its sign of that base. -/
def basedInteger (letter : Char) (base : Nat) : Reader Int :=
  ((Reader.exact ['0', letter]).thenRead
    (digitRun fun c => (Text.hexDigit? c).any (· < base))).filterMap fun digits =>
      word? false (digitsValue base digits)

/-- A whole number. -/
def integer : Reader Int :=
  (basedInteger 'x' 16).orElse ((basedInteger 'o' 8).orElse ((basedInteger 'b' 2).orElse
    ((sign.and wholeDigits).filterMap fun (s, digits) =>
      word? (s == some '-') (Text.decimalValue digits))))

/-- The least number that is nearer to the next power of two than to any binary float of 64
bits. -/
def floatBound : Nat := 1 <<< 1024 - 1 <<< 970

/-- Whether a decimal is too large for a binary float of 64 bits. -/
def exceedsFloat (digits : List Char) (exponent : Int) : Bool :=
  let n := Text.decimalValue digits
  let width := (digits.dropWhile (· == '0')).length
  if n = 0 then false
  else if (width : Int) + exponent > 400 then true
  else if (width : Int) + exponent < 0 then false
  else if 0 ≤ exponent then floatBound ≤ n * Nat.pow 10 exponent.toNat
  else floatBound * Nat.pow 10 (-exponent).toNat ≤ n

/-- The exponent of a float. -/
def exponent : Reader Int :=
  ((Reader.satisfy fun c => c = 'e' || c = 'E').thenRead
    (sign.and (digitRun Char.isDigit))).map fun (s, digits) =>
      if s == some '-' then -(Text.decimalValue digits : Int) else Text.decimalValue digits

/-- The fraction of a float. -/
def fraction : Reader (List Char) :=
  (Reader.exact ['.']).thenRead (digitRun Char.isDigit)

/-- A float that is written with digits. A positive one must not be too large. -/
def decimalFloat : Reader Unit := fun cs => do
  let ((s, whole), rest) ← (sign.and wholeDigits) cs
  let (part, rest) ← (Reader.optional fraction) rest
  let (e, rest) ← (Reader.optional exponent) rest
  guard (part.isSome || e.isSome)
  let digits := part.getD []
  let tooLarge := exceedsFloat (whole ++ digits) (e.getD 0 - digits.length)
  guard (s == some '-' || !tooLarge)
  return ((), rest)

/-- An infinity, or what is not a number. -/
def specialFloat : Reader Unit :=
  (sign.and ((Reader.exact "inf".toList).orElse (Reader.exact "nan".toList))).map fun _ => ()

/-- A number of digits whose value lies in a range. -/
def bounded (digits low high : Nat) : Reader Nat :=
  (Reader.take digits Char.isDigit).filterMap fun cs =>
    let n := Text.decimalValue cs
    if low ≤ n && n ≤ high then some n else none

/-- The number of days in a month. -/
def daysInMonth (year month : Nat) : Nat :=
  if month = 2 then
    if year % 4 = 0 && (year % 100 ≠ 0 || year % 400 = 0) then 29 else 28
  else if [4, 6, 9, 11].contains month then 30
  else 31

/-- A day of the calendar. -/
def date : Reader Unit :=
  (((bounded 4 0 9999).before (Reader.exact ['-'])).and
    (((bounded 2 1 12).before (Reader.exact ['-'])).and (bounded 2 1 31))).filterMap
      fun (year, month, day) => if day ≤ daysInMonth year month then some () else none

/-- A time of the day, to the second or finer. A minute may have a leap second. -/
def time : Reader Unit :=
  ((bounded 2 0 23).before (Reader.exact [':'])).thenRead
    (((bounded 2 0 59).before (Reader.exact [':'])).thenRead
      ((bounded 2 0 60).thenRead ((Reader.optional
        ((Reader.exact ['.']).thenRead (Reader.takeWhile1 Char.isDigit))).map fun _ => ())))

/-- A distance from universal time. -/
def offset : Reader Unit :=
  ((Reader.satisfy fun c => c = 'Z' || c = 'z').map fun _ => ()).orElse
    ((Reader.satisfy fun c => c = '+' || c = '-').thenRead
      (((bounded 2 0 23).before (Reader.exact [':'])).thenRead ((bounded 2 0 59).map fun _ => ())))

/-- A day, a time, or both. -/
def dateTime : Reader Unit :=
  (date.thenRead ((Reader.optional
    ((Reader.satisfy fun c => c = 'T' || c = 't' || c = ' ').thenRead
      (time.before (Reader.optional offset)))).map fun _ => ())).orElse time

end LogLayout.Toml
