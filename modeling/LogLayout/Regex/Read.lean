import LogLayout.Regex.Token

namespace LogLayout.Regex

/-- An expression that is repeated. -/
def repeated (r : Regex) (greedy : Bool) : Count → Regex
  | .zeroOrOne => if greedy then either r empty else either empty r
  | .zeroOrMore => star greedy r
  | .oneOrMore => append r (star greedy r)

/-- A group that is being read. -/
structure OpenGroup where
  /-- The alternatives before the one that is being read, last one first. -/
  alternatives : List Regex := []
  /-- The parts of the alternative that is being read, last one first. -/
  parts : List Regex := []

namespace OpenGroup

/-- The group with one more part. -/
def push (g : OpenGroup) (r : Regex) : OpenGroup := { g with parts := r :: g.parts }

/-- The alternative that is being read. -/
def alternative (g : OpenGroup) : Regex :=
  match g.parts with
  | [] => empty
  | last :: before => before.foldl (fun later part => append part later) last

/-- The group at the start of its next alternative. -/
def next (g : OpenGroup) : OpenGroup :=
  { alternatives := g.alternative :: g.alternatives }

/-- The group as an expression. -/
def close (g : OpenGroup) : Regex :=
  g.alternatives.foldl (fun later earlier => either earlier later) g.alternative

end OpenGroup

/-- Reads on in a group that is inside of others, innermost first. A sign for repetition needs a
part that it can be for. -/
def ofTokens? (g : OpenGroup) (outer : List OpenGroup) : List Token → Option Regex
  | [] => if outer.isEmpty then some g.close else none
  | .char c :: rest => ofTokens? (g.push (.char c)) outer rest
  | .atStart :: rest => ofTokens? (g.push .atStart) outer rest
  | .atEnd :: rest => ofTokens? (g.push .atEnd) outer rest
  | .openGroup :: rest => ofTokens? {} (g :: outer) rest
  | .closeGroup :: rest =>
    match outer with
    | [] => none
    | around :: outer => ofTokens? (around.push g.close) outer rest
  | .bar :: rest => ofTokens? g.next outer rest
  | .repeated count greedy :: rest =>
    match g.parts with
    | [] => none
    | part :: before =>
      ofTokens? { g with parts := part.repeated greedy count :: before } outer rest

/-- Reads a regular expression. -/
def ofText? (s : String) : Option Regex :=
  (tokens? s).bind (ofTokens? {} [])

end LogLayout.Regex
