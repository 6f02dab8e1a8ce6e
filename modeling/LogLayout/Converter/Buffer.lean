import LogLayout.Converter.Text

namespace LogLayout

mutual

/-- Writes a converter's text at the end of a buffer. The converter `equals` renders its test
in place and, when that gives the expected text, takes it back and renders its substitution. -/
def Converter.appendTo (e : Event) (buffer : String) : Converter → String
  | .literal text => buffer ++ text
  | .logger precision => buffer ++ loggerText precision e.logger
  | .level => buffer ++ e.level.name
  | .message => buffer ++ e.message
  | .thread => buffer ++ e.thread
  | .context (some key) => buffer ++ (e.context.get? key).getD ""
  | .context none => buffer ++ contextText e.context
  | .lineSeparator => buffer ++ "\n"
  | .equals test expected substitution =>
    let mark := buffer.utf8ByteSize
    let tested := test.appendTo e buffer
    if Text.startingAt tested mark = expected then
      substitution.appendTo e (Text.upTo tested mark)
    else tested
  | .custom _ text => buffer ++ text e

/-- Writes a formatter's field at the end of a buffer. -/
def Formatter.appendTo (e : Event) (buffer : String) : Formatter → String
  | ⟨converter, width⟩ =>
    if width.isDefault then converter.appendTo e buffer
    else width.fitFrom buffer.utf8ByteSize (converter.appendTo e buffer)

/-- Writes a chain's text at the end of a buffer. -/
def Chain.appendTo (e : Event) (buffer : String) : Chain → String
  | ⟨_, formatters⟩ => appendFormatters e buffer formatters

/-- Writes the fields of formatters, in order, at the end of a buffer. -/
def appendFormatters (e : Event) (buffer : String) : List Formatter → String
  | [] => buffer
  | f :: rest => appendFormatters e (f.appendTo e buffer) rest

/-- Writes a substitution's text at the end of a buffer. -/
def Substitution.appendTo (e : Event) (buffer : String) : Substitution → String
  | .literal text => buffer ++ text
  | .pattern chain => chain.appendTo e buffer

end

end LogLayout
