import LogLayout.Layout

namespace LogLayout

mutual

theorem Converter.appendTo_eq_append (e : Event) (buffer : String) (c : Converter) :
    c.appendTo e buffer = buffer ++ c.text e := by
  cases c with
  | literal text => rfl
  | logger precision => rfl
  | level => rfl
  | message => rfl
  | thread => rfl
  | context key => cases key <;> rfl
  | lineSeparator => rfl
  | custom name text => rfl
  | equals test expected substitution =>
    -- The test stands alone behind the mark, so only its own text is compared and taken back.
    have htest := Chain.appendTo_eq_append e buffer test
    have hsubstitution := Substitution.appendTo_eq_append e buffer substitution
    simp only [Converter.appendTo, Converter.text, htest, Text.startingAt_append,
      Text.upTo_append, hsubstitution]
    by_cases hmatch : test.text e = expected
    · rw [if_pos hmatch, if_pos hmatch]
    · rw [if_neg hmatch, if_neg hmatch]

theorem Formatter.appendTo_eq_append (e : Event) (buffer : String) (f : Formatter) :
    f.appendTo e buffer = buffer ++ f.text e := by
  obtain ⟨converter, width⟩ := f
  have hconverter := Converter.appendTo_eq_append e buffer converter
  simp only [Formatter.appendTo, Formatter.text, hconverter]
  by_cases hdefault : width.isDefault = true
  · rw [if_pos hdefault, FieldWidth.eq_default_of_isDefault hdefault, FieldWidth.fit_default]
  · rw [if_neg hdefault, FieldWidth.fitFrom_append]

theorem Chain.appendTo_eq_append (e : Event) (buffer : String) (c : Chain) :
    c.appendTo e buffer = buffer ++ c.text e := by
  obtain ⟨source, formatters⟩ := c
  exact appendFormatters_eq_append e buffer formatters

theorem appendFormatters_eq_append (e : Event) (buffer : String) (formatters : List Formatter) :
    appendFormatters e buffer formatters = buffer ++ formattersText e formatters := by
  cases formatters with
  | nil => simp [appendFormatters, formattersText]
  | cons f rest =>
    rw [appendFormatters, Formatter.appendTo_eq_append e buffer f,
      appendFormatters_eq_append e _ rest, formattersText, String.append_assoc]

theorem Substitution.appendTo_eq_append (e : Event) (buffer : String) (s : Substitution) :
    s.appendTo e buffer = buffer ++ s.text e := by
  cases s with
  | literal text => rfl
  | pattern chain => exact Chain.appendTo_eq_append e buffer chain

end

namespace Layout

/-- Renders events, in order, at the end of one buffer. -/
def appendAll (l : Layout) (events : List Event) (buffer : String) : String :=
  events.foldl (fun extended e => (l.appendTo e extended).1) buffer

theorem format_eq_text (l : Layout) (e : Event) : (l.format e).1 = l.chain.text e := by
  rw [format, appendTo, Chain.appendTo_eq_append, String.empty_append]

theorem appendAll_eq_append (l : Layout) (events : List Event) (buffer : String) :
    l.appendAll events buffer = buffer ++ String.join (events.map fun e => (l.format e).1) := by
  induction events generalizing buffer with
  | nil => simp [appendAll]
  | cons e rest ih =>
    have hstep : l.appendAll (e :: rest) buffer = l.appendAll rest (l.appendTo e buffer).1 := rfl
    have hfirst : (l.appendTo e buffer).1 = buffer ++ (l.format e).1 := by
      rw [format_eq_text]
      exact Chain.appendTo_eq_append e buffer l.chain
    rw [hstep, ih, hfirst, List.map_cons, String.join_cons, String.append_assoc]

end Layout

/-- Rendering into a buffer writes the text of the rendered node behind what the buffer holds, at
every node of a compiled pattern and whatever the widths are. What stood in the buffer is kept and
has no influence on what is written, so a layout that renders several events into one buffer writes
what it gives for each of them by itself. -/
theorem rendering_only_appends (buffer : String) :
    (∀ (e : Event) (c : Converter), c.appendTo e buffer = buffer ++ c.text e) ∧
    (∀ (e : Event) (f : Formatter), f.appendTo e buffer = buffer ++ f.text e) ∧
    (∀ (e : Event) (c : Chain), c.appendTo e buffer = buffer ++ c.text e) ∧
    (∀ (e : Event) (s : Substitution), s.appendTo e buffer = buffer ++ s.text e) ∧
    ∀ (l : Layout) (events : List Event),
      l.appendAll events buffer = buffer ++ String.join (events.map fun e => (l.format e).1) := by
  refine ⟨?_, ?_, ?_, ?_, ?_⟩
  · intro e c
    exact c.appendTo_eq_append e buffer
  · intro e f
    exact f.appendTo_eq_append e buffer
  · intro e c
    exact c.appendTo_eq_append e buffer
  · intro e s
    exact s.appendTo_eq_append e buffer
  · intro l events
    exact l.appendAll_eq_append events buffer

end LogLayout
