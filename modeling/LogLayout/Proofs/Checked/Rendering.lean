import LogLayout.Proofs.Checked.Compile
import LogLayout.Proofs.Checked.Field
import LogLayout.Proofs.Pattern.Regular
import Mathlib.Data.Option.Basic

namespace LogLayout

mutual

/-- Writes a converter's text at the end of a buffer. -/
def Converter.appendTo? (e : Event) (buffer : String) : Converter → Option String
  | .literal text => return buffer ++ text
  | .logger none => return buffer ++ e.logger
  | .logger (some n) => return buffer ++ (← lastSegments? n e.logger)
  | .level => return buffer ++ e.level.name
  | .message => return buffer ++ e.message
  | .thread => return buffer ++ e.thread
  | .context (some key) => return buffer ++ (e.context.get? key).getD ""
  | .context none => return buffer ++ contextText e.context
  | .lineSeparator => return buffer ++ "\n"
  | .equals test expected substitution => do
    let mark := buffer.utf8ByteSize
    let tested ← test.appendTo? e buffer
    -- The test is asserted not to take away from the buffer.
    guard (mark ≤ tested.utf8ByteSize)
    let length ← Text.sub? tested.utf8ByteSize mark
    if ← regionEquals? expected tested mark length then
      substitution.appendTo? e (← Text.truncate? tested mark)
    else return tested
  | .custom _ text => return buffer ++ text e

/-- Writes a formatter's field at the end of a buffer. -/
def Formatter.appendTo? (e : Event) (buffer : String) : Formatter → Option String
  | ⟨converter, width⟩ =>
    if width.isDefault then converter.appendTo? e buffer
    else do width.fitFrom? buffer.utf8ByteSize (← converter.appendTo? e buffer)

/-- Writes a chain's text at the end of a buffer. -/
def Chain.appendTo? (e : Event) (buffer : String) : Chain → Option String
  | ⟨_, formatters⟩ => appendFormatters? e buffer formatters

/-- Writes the fields of formatters, in order, at the end of a buffer. -/
def appendFormatters? (e : Event) (buffer : String) : List Formatter → Option String
  | [] => return buffer
  | f :: rest => do appendFormatters? e (← f.appendTo? e buffer) rest

/-- Writes a substitution's text at the end of a buffer. -/
def Substitution.appendTo? (e : Event) (buffer : String) : Substitution → Option String
  | .literal text => return buffer ++ text
  | .pattern chain => chain.appendTo? e buffer

end

/-- Renders an event at the end of a buffer, and reports how many bytes that took. -/
def Layout.appendTo? (l : Layout) (e : Event) (buffer : String) : Option (String × LogRecord) := do
  let extended ← l.chain.appendTo? e buffer
  let size ← Text.sub? extended.utf8ByteSize buffer.utf8ByteSize
  return (extended, { diagnostic := .eventFormatted l.id size })

/-- Whether every logger converter in a chain that is asked for segments, at any depth, is asked
for one at least. -/
def Chain.AsksForSegments (c : Chain) : Prop :=
  ∀ inner : Chain, inner.Inside c → ∀ width, ⟨.logger (some 0), width⟩ ∉ inner.formatters

section Nodes

variable {e : Event} {buffer : String}

theorem Converter.appendTo?_of_flat {c : Converter}
    (hflat : ∀ test expected substitution, c ≠ .equals test expected substitution)
    (hsegments : c ≠ .logger (some 0)) : c.appendTo? e buffer = some (buffer ++ c.text e) := by
  cases c with
  | logger precision =>
    cases precision with
    | none => rfl
    | some n =>
      have hn : n ≠ 0 := by
        rintro rfl
        exact hsegments rfl
      simp only [Converter.appendTo?, lastSegments?_eq_some hn, Option.bind_eq_bind,
        Option.bind_some, Option.pure_def, Converter.text, loggerText]
  | context key => cases key <;> rfl
  | equals test expected substitution => exact (hflat test expected substitution rfl).elim
  | _ => rfl

/-- The test stands behind the mark, so it can be compared and taken back. -/
theorem Converter.appendTo?_equals {test : Chain} {expected : String} {substitution : Substitution}
    (htest : test.appendTo? e buffer = some (buffer ++ test.text e))
    (hsubstitution : substitution.appendTo? e buffer = some (buffer ++ substitution.text e)) :
    (Converter.equals test expected substitution).appendTo? e buffer =
      some (buffer ++ (Converter.equals test expected substitution).text e) := by
  have hmark : buffer.utf8ByteSize ≤ (buffer ++ test.text e).utf8ByteSize :=
    Text.utf8ByteSize_le_append buffer (test.text e)
  have hlength : Text.sub? (buffer ++ test.text e).utf8ByteSize buffer.utf8ByteSize =
      some (test.text e).utf8ByteSize := by
    rw [String.utf8ByteSize_append, Text.sub?_add_left]
  simp only [Converter.appendTo?, htest, guard, if_pos hmark, hlength, regionEquals?_append,
    Option.bind_eq_bind, Option.bind_some, Option.pure_def, decide_eq_true_eq, Converter.text]
  by_cases hmatch : test.text e = expected
  · rw [if_pos hmatch, if_pos hmatch, Text.truncate?_append, Option.bind_some, hsubstitution]
  · rw [if_neg hmatch, if_neg hmatch]

/-- A formatter's width is applied from where its converter started to write. -/
theorem Formatter.appendTo?_of_converter {c : Converter} (width : FieldWidth)
    (h : c.appendTo? e buffer = some (buffer ++ c.text e)) :
    Formatter.appendTo? e buffer ⟨c, width⟩ = some (buffer ++ Formatter.text e ⟨c, width⟩) := by
  rw [Formatter.appendTo?, h, Formatter.text]
  by_cases hdefault : width.isDefault = true
  · rw [if_pos hdefault, FieldWidth.eq_default_of_isDefault hdefault, FieldWidth.fit_default]
  · rw [if_neg hdefault]
    exact FieldWidth.fitFrom?_append width buffer (c.text e)

theorem Chain.AsksForSegments.test {outer test : Chain} {expected : String}
    {substitution : Substitution} {width : FieldWidth} (h : outer.AsksForSegments)
    (hf : ⟨.equals test expected substitution, width⟩ ∈ outer.formatters) : test.AsksForSegments :=
  fun inner hinside => h inner (.test hf hinside)

theorem Chain.AsksForSegments.substitution {outer test chain : Chain} {expected : String}
    {width : FieldWidth} (h : outer.AsksForSegments)
    (hf : ⟨.equals test expected (.pattern chain), width⟩ ∈ outer.formatters) :
    chain.AsksForSegments :=
  fun inner hinside => h inner (.substitution hf hinside)

end Nodes

mutual

theorem Formatter.appendTo?_eq_some {outer : Chain} (h : outer.AsksForSegments) (e : Event)
    (buffer : String) (f : Formatter) (hf : f ∈ outer.formatters) :
    f.appendTo? e buffer = some (buffer ++ f.text e) := by
  obtain ⟨converter, width⟩ := f
  cases converter with
  | equals test expected substitution =>
    have htest := Chain.appendTo?_eq_some e buffer test (h.test hf)
    have hsubstitution : substitution.appendTo? e buffer =
        some (buffer ++ substitution.text e) := by
      cases substitution with
      | literal text => rfl
      | pattern chain => exact Chain.appendTo?_eq_some e buffer chain (h.substitution hf)
    exact Formatter.appendTo?_of_converter width (Converter.appendTo?_equals htest hsubstitution)
  | _ =>
    apply Formatter.appendTo?_of_converter width
    apply Converter.appendTo?_of_flat (by simp)
    intro hzero
    rw [hzero] at hf
    exact h outer .self width hf

theorem appendFormatters?_eq_some {outer : Chain} (h : outer.AsksForSegments) (e : Event)
    (buffer : String) (formatters : List Formatter)
    (hformatters : ∀ f ∈ formatters, f ∈ outer.formatters) :
    appendFormatters? e buffer formatters = some (buffer ++ formattersText e formatters) := by
  cases formatters with
  | nil => simp [appendFormatters?, formattersText]
  | cons f rest =>
    have hfirst := Formatter.appendTo?_eq_some h e buffer f (hformatters f List.mem_cons_self)
    have hrest := appendFormatters?_eq_some h e (buffer ++ f.text e) rest
      fun g hg => hformatters g (List.mem_cons_of_mem f hg)
    rw [appendFormatters?, hfirst, Option.bind_eq_bind, Option.bind_some, hrest, formattersText,
      String.append_assoc]

theorem Chain.appendTo?_eq_some (e : Event) (buffer : String) (c : Chain)
    (h : c.AsksForSegments) : c.appendTo? e buffer = some (buffer ++ c.text e) := by
  obtain ⟨source, formatters⟩ := c
  exact appendFormatters?_eq_some h e buffer formatters fun f hf => hf

end

/-- A layout reports how many bytes it wrote. -/
theorem Layout.appendTo?_eq_some (l : Layout) (h : l.chain.AsksForSegments) (e : Event)
    (buffer : String) : l.appendTo? e buffer = some (l.appendTo e buffer) := by
  rw [Layout.appendTo?, Chain.appendTo?_eq_some e buffer l.chain h]
  simp [Layout.appendTo, Chain.appendTo_eq_append, String.utf8ByteSize_append, Text.sub?]

namespace Pattern

theorem asksForSegments_compile {registry : Registry} (hregistry : registry.AllBuiltin)
    (pattern : String) : (compile registry pattern).chain.AsksForSegments :=
  fun _ hinside width => (regular_of_inside hregistry hinside).precision width

/-- With built-in kinds, whatever is done by byte offset while a pattern is compiled and while a
layout of it renders an event into a buffer is defined: every cut is made between characters of
the text that is cut, and no difference is negative. -/
theorem compiling_and_rendering_defined {registry : Registry} (hregistry : registry.AllBuiltin)
    (pattern : String) :
    compile? registry pattern = some (compile registry pattern) ∧
    (∀ (e : Event) (buffer : String),
      (compile registry pattern).chain.appendTo? e buffer =
        some ((compile registry pattern).chain.appendTo e buffer)) ∧
    ∀ (id : String) (e : Event) (buffer : String),
      (Layout.compile registry id pattern).1.appendTo? e buffer =
        some ((Layout.compile registry id pattern).1.appendTo e buffer) := by
  have hsegments := asksForSegments_compile hregistry pattern
  refine ⟨compile?_eq_some registry pattern, ?_, ?_⟩
  · intro e buffer
    rw [Chain.appendTo?_eq_some e buffer _ hsegments, Chain.appendTo_eq_append]
  · intro id e buffer
    exact Layout.appendTo?_eq_some _ hsegments e buffer

/-- Characters of two bytes around a marker, in an option, at a cut and in a text that is taken
back. -/
theorem compiling_and_rendering_defined_umlauts :
    let pattern := "ä%equals\x7b%.-2t\x7d\x7bäö\x7d\x7b<%c\x7b1\x7d>\x7d%ö"
    let chain := (compile Registry.builtins pattern).chain
    Registry.builtins.AllBuiltin ∧
    compile? Registry.builtins pattern = some (compile Registry.builtins pattern) ∧
    chain.appendTo? { logger := "a.é", thread := "äöü" } "ß" = some "ßä<é>%ö" := by
  intro pattern chain
  have hdefined := compiling_and_rendering_defined Registry.allBuiltin_builtins pattern
  refine ⟨Registry.allBuiltin_builtins, hdefined.1, ?_⟩
  rw [hdefined.2.1]
  decide +kernel

end Pattern

end LogLayout
