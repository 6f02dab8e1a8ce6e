import LogLayout.Converter

namespace LogLayout

/-- The characters before a dot that has `n` dots before it, or all when there is no such dot. -/
def beforeDot (n : Nat) : List Char → List Char
  | [] => []
  | c :: cs =>
    if c = '.' then
      match n with
      | 0 => []
      | n + 1 => c :: beforeDot n cs
    else c :: beforeDot n cs

/-- The last `n` dotted segments of a name, or all of it when there are fewer. The name is read
from its end. -/
def lastSegments (n : Nat) (name : String) : String :=
  match n with
  | 0 => ""
  | n + 1 => String.ofList (beforeDot n name.toList.reverse).reverse

/-- A logger name at a precision. -/
def loggerText (precision : Option Nat) (name : String) : String :=
  match precision with
  | none => name
  | some n => lastSegments n name

/-- Context entries as `key=value`, parted by commas, between braces. -/
def contextText (context : Dictionary String) : String :=
  let entries := context.entries.map (fun e => e.1 ++ "=" ++ e.2)
  "\x7b" ++ ", ".intercalate entries ++ "\x7d"

mutual

/-- What a converter writes for an event. -/
def Converter.text (e : Event) : Converter → String
  | .literal text => text
  | .logger precision => loggerText precision e.logger
  | .level => e.level.name
  | .message => e.message
  | .thread => e.thread
  | .context (some key) => (e.context.get? key).getD ""
  | .context none => contextText e.context
  | .lineSeparator => "\n"
  | .equals test expected substitution =>
    let tested := test.text e
    if tested = expected then substitution.text e else tested
  | .custom _ text => text e

/-- What a formatter writes: its converter's text brought to its width. -/
def Formatter.text (e : Event) : Formatter → String
  | ⟨converter, width⟩ => width.fit (converter.text e)

/-- What a chain writes. -/
def Chain.text (e : Event) : Chain → String
  | ⟨_, formatters⟩ => formattersText e formatters

/-- What formatters write one after the other. -/
def formattersText (e : Event) : List Formatter → String
  | [] => ""
  | f :: rest => f.text e ++ formattersText e rest

/-- What a substitution writes. -/
def Substitution.text (e : Event) : Substitution → String
  | .literal text => text
  | .pattern chain => chain.text e

end

end LogLayout
