import LogLayout.Text.Blank
import LogLayout.Text.Word

namespace LogLayout

/-- A class of characters. -/
inductive CharClass where
  | none
  | range (first last : Char)
  /-- White space. -/
  | blank
  /-- Decimal digits. -/
  | digit
  /-- Word characters. -/
  | word
  | union (a b : CharClass)
  | complement (a : CharClass)
  deriving DecidableEq, Repr

namespace CharClass

/-- Whether a character belongs to a class. -/
def contains (x : Char) : CharClass → Bool
  | none => false
  | range first last => first.toNat ≤ x.toNat && x.toNat ≤ last.toNat
  | blank => Text.isBlank x
  | digit => Text.isDecimalDigit x
  | word => Text.isWordCharacter x
  | union a b => a.contains x || b.contains x
  | complement a => !a.contains x

/-- The class of one character. -/
def single (c : Char) : CharClass := range c c

/-- The characters that two classes share. -/
def inter (a b : CharClass) : CharClass := complement (union (complement a) (complement b))

/-- The characters of the first class that are not in the second. -/
def diff (a b : CharClass) : CharClass := inter a (complement b)

/-- The characters that are in one of two classes and not in the other. -/
def symmDiff (a b : CharClass) : CharClass := diff (union a b) (inter a b)

end CharClass

/-- A regular expression. -/
inductive Regex where
  | empty
  | char (c : CharClass)
  /-- The start of the text. -/
  | atStart
  /-- The end of the text. -/
  | atEnd
  | append (a b : Regex)
  /-- One of two, the first by preference. -/
  | either (a b : Regex)
  /-- Any number of repetitions: many by preference when greedy, and few otherwise. -/
  | star (greedy : Bool) (a : Regex)
  deriving DecidableEq, Repr

namespace Regex

/-- What can come next in a match. -/
inductive Choice where
  /-- The match is complete. -/
  | done
  /-- A character of a class, and then a match of an expression. -/
  | take (c : CharClass) (rest : Regex)
  deriving DecidableEq, Repr

/-- The choice when more has to follow the match. -/
def Choice.before (b : Regex) : Choice → Choice
  | done => done
  | take c empty => take c b
  | take c rest => take c (append rest b)

/-- The choices at a place of the text, the preferred ones first. A repetition without characters
ends the repeating. -/
def choices (isStart isEnd : Bool) : Regex → List Choice
  | empty => [.done]
  | char c => [.take c empty]
  | atStart => if isStart then [.done] else []
  | atEnd => if isEnd then [.done] else []
  | append a b =>
    (choices isStart isEnd a).flatMap fun
      | .done => choices isStart isEnd b
      | choice => [choice.before b]
  | either a b => choices isStart isEnd a ++ choices isStart isEnd b
  | star greedy a =>
    let again := (choices isStart isEnd a).map (Choice.before (star greedy a))
    if greedy then again ++ [.done] else .done :: again

/-- What is left to match after a character has been taken. -/
def Choice.after? (x : Char) : Choice → Option Regex
  | done => none
  | take c rest => if c.contains x then some rest else none

/-- Searches on in a text, where `ongoing` are the matches that have been started, the preferred
ones first; while `searching`, a new one is started at every place. When a match is complete,
those that it is preferred to are given up, and those before it go on. Whether one is complete at
the end of the text is the answer. -/
def search (r : Regex) (isStart : Bool) (ongoing : List Regex) (searching : Bool) :
    List Char → Bool
  | [] =>
    let starts := if searching then ongoing ++ [r] else ongoing
    (starts.flatMap (choices isStart true)).contains .done
  | x :: rest =>
    let starts := if searching then ongoing ++ [r] else ongoing
    let choices := starts.flatMap (choices isStart false)
    let preferred := choices.takeWhile (· ≠ .done)
    search r false (preferred.filterMap (·.after? x)).eraseDups
      (searching && !choices.contains .done) rest

/-- Whether the match that a search for the expression finds first goes to the end of the text. -/
def reachesEnd (r : Regex) (s : String) : Bool :=
  search r true [] true s.toList

end Regex

end LogLayout
