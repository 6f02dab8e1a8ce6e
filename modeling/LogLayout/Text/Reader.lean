namespace LogLayout.Text

/-- Takes something off the start of text, or fails. -/
abbrev Reader (α : Type) := List Char → Option (α × List Char)

namespace Reader

variable {α β : Type}

/-- A character that passes a test. -/
def satisfy (p : Char → Bool) : Reader Char
  | [] => none
  | c :: rest => if p c then some (c, rest) else none

/-- The given characters. -/
def exact (word : List Char) : Reader Unit := fun cs =>
  if word.isPrefixOf cs then some ((), cs.drop word.length) else none

/-- Passes over characters that pass a test. -/
def skipWhile (p : Char → Bool) : Reader Unit := fun cs => some ((), cs.dropWhile p)

/-- One or more characters that pass a test. -/
def takeWhile1 (p : Char → Bool) : Reader (List Char) := fun cs =>
  let taken := cs.takeWhile p
  if taken.isEmpty then none else some (taken, cs.dropWhile p)

/-- A number of characters that pass a test. -/
def take (n : Nat) (p : Char → Bool) : Reader (List Char) := fun cs =>
  let taken := cs.take n
  if taken.length = n && taken.all p then some (taken, cs.drop n) else none

/-- Something else of what was read. -/
def map (f : α → β) (r : Reader α) : Reader β := fun cs =>
  (r cs).map fun (a, rest) => (f a, rest)

/-- Something else of what was read, where there is such a thing. -/
def filterMap (f : α → Option β) (r : Reader α) : Reader β := fun cs =>
  (r cs).bind fun (a, rest) => (f a).map (·, rest)

/-- The first reader that does not fail. -/
def orElse (r s : Reader α) : Reader α := fun cs => (r cs).or (s cs)

/-- What is read, if it is there. -/
def optional (r : Reader α) : Reader (Option α) := fun cs =>
  match r cs with
  | some (a, rest) => some (some a, rest)
  | none => some (none, cs)

/-- Two things one after the other. -/
def and (r : Reader α) (s : Reader β) : Reader (α × β) := fun cs =>
  (r cs).bind fun (a, rest) => (s rest).map fun (b, rest) => ((a, b), rest)

/-- The first of two things one after the other. -/
def before (r : Reader α) (s : Reader β) : Reader α := (r.and s).map (·.1)

/-- The second of two things one after the other. -/
def thenRead (r : Reader α) (s : Reader β) : Reader β := (r.and s).map (·.2)

/-- The things that follow one after the other, `limit` at most, and the text after them. -/
def repeated (r : Reader α) : Nat → List Char → List α × List Char
  | 0, cs => ([], cs)
  | limit + 1, cs =>
    match r cs with
    | none => ([], cs)
    | some (a, rest) =>
      let (as, rest) := repeated r limit rest
      (a :: as, rest)

/-- As many things as follow, when each of them takes at least one character. -/
def many (r : Reader α) : Reader (List α) := fun cs => some (repeated r cs.length cs)

/-- One thing or more, with a separator between any two. -/
def separated (r : Reader α) (separator : Reader β) : Reader (List α) :=
  (r.and (many (separator.thenRead r))).map fun (a, as) => a :: as

end Reader

end LogLayout.Text
