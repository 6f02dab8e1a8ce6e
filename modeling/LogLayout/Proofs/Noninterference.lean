import LogLayout.Proofs.Pattern.Regular
import LogLayout.Proofs.Rendering

namespace LogLayout

namespace Event

/-- A part of an event that a converter can copy. -/
inductive Part where
  | logger
  | level
  | message
  | thread
  /-- The context entry under a key, or its absence. -/
  | entry (key : String)
  deriving DecidableEq, Repr

/-- Whether two events agree in a part. -/
def Part.SameIn (e₁ e₂ : Event) : Part → Prop
  | .logger => e₁.logger = e₂.logger
  | .level => e₁.level = e₂.level
  | .message => e₁.message = e₂.message
  | .thread => e₁.thread = e₂.thread
  | .entry key => e₁.context.get? key = e₂.context.get? key

variable {e₁ e₂ : Event}

theorem context_eq_of_sameIn (h : ∀ key, (Part.entry key).SameIn e₁ e₂) :
    e₁.context = e₂.context :=
  Dictionary.ext_get? h

/-- An event is nothing but its parts. -/
theorem eq_of_sameIn (h : ∀ part : Part, part.SameIn e₁ e₂) : e₁ = e₂ := by
  have hlogger : e₁.logger = e₂.logger := h .logger
  have hlevel : e₁.level = e₂.level := h .level
  have hmessage : e₁.message = e₂.message := h .message
  have hthread : e₁.thread = e₂.thread := h .thread
  have hcontext := context_eq_of_sameIn fun key => h (.entry key)
  cases e₁
  cases e₂
  simp_all

end Event

/-- Whether a converter copies a part of the event. One from elsewhere may copy all of them, while
`equals` copies none itself: what it writes comes from the chains inside it. -/
def Converter.Copies (part : Event.Part) : Converter → Prop
  | .logger _ => part = .logger
  | .level => part = .level
  | .message => part = .message
  | .thread => part = .thread
  | .context (some key) => part = .entry key
  | .context none => ∃ key, part = .entry key
  | .custom .. => True
  | .literal _ | .lineSeparator | .equals .. => False

/-- Whether some converter in a chain, at any depth, copies a part of the event. -/
def Chain.Names (part : Event.Part) (c : Chain) : Prop :=
  ∃ inner : Chain, inner.Inside c ∧ ∃ f ∈ inner.formatters, f.converter.Copies part

section Names

variable {outer test chain : Chain} {expected : String} {substitution : Substitution}
  {width : FieldWidth} {part : Event.Part}

theorem Chain.Names.of_copies {f : Formatter} (hf : f ∈ outer.formatters)
    (hcopies : f.converter.Copies part) : outer.Names part :=
  ⟨outer, .self, f, hf, hcopies⟩

theorem Chain.Names.of_test (hf : ⟨.equals test expected substitution, width⟩ ∈ outer.formatters)
    (h : test.Names part) : outer.Names part := by
  obtain ⟨inner, hinside, hcopies⟩ := h
  exact ⟨inner, .test hf hinside, hcopies⟩

theorem Chain.Names.of_substitution
    (hf : ⟨.equals test expected (.pattern chain), width⟩ ∈ outer.formatters)
    (h : chain.Names part) : outer.Names part := by
  obtain ⟨inner, hinside, hcopies⟩ := h
  exact ⟨inner, .substitution hf hinside, hcopies⟩

end Names

/-- A converter without chains inside it writes the same for events that agree in what it copies. -/
theorem Converter.text_eq_of_copies {e₁ e₂ : Event} {c : Converter}
    (hflat : ∀ test expected substitution, c ≠ .equals test expected substitution)
    (h : ∀ part, c.Copies part → part.SameIn e₁ e₂) : c.text e₁ = c.text e₂ := by
  cases c with
  | literal text => rfl
  | lineSeparator => rfl
  | logger precision => exact congrArg (loggerText precision) (h .logger rfl)
  | level => exact congrArg Level.name (h .level rfl)
  | message => exact h .message rfl
  | thread => exact h .thread rfl
  | context key =>
    cases key with
    | some key => exact congrArg (fun value => value.getD "") (h (.entry key) rfl)
    | none =>
      have hcontext := Event.context_eq_of_sameIn fun key => h (.entry key) ⟨key, rfl⟩
      exact congrArg contextText hcontext
  | custom name text => exact congrArg text (Event.eq_of_sameIn fun part => h part trivial)
  | equals test expected substitution => exact (hflat test expected substitution rfl).elim

section Text

variable {e₁ e₂ : Event}

mutual

/-- An `equals` test turns out alike for both events, since its text is the same for them. -/
theorem Formatter.text_eq_of_names {outer : Chain}
    (h : ∀ part, outer.Names part → part.SameIn e₁ e₂) (f : Formatter)
    (hf : f ∈ outer.formatters) : f.text e₁ = f.text e₂ := by
  obtain ⟨converter, width⟩ := f
  cases converter with
  | equals test expected substitution =>
    have htest := Chain.text_eq_of_names test fun part hpart => h part (.of_test hf hpart)
    have hsubstitution : substitution.text e₁ = substitution.text e₂ := by
      cases substitution with
      | literal text => rfl
      | pattern chain =>
        exact Chain.text_eq_of_names chain fun part hpart => h part (.of_substitution hf hpart)
    simp only [Formatter.text, Converter.text, htest, hsubstitution]
  | _ =>
    have hconverter := Converter.text_eq_of_copies (by simp)
      fun part hpart => h part (.of_copies hf hpart)
    exact congrArg width.fit hconverter

theorem formattersText_eq_of_names {outer : Chain}
    (h : ∀ part, outer.Names part → part.SameIn e₁ e₂) (formatters : List Formatter)
    (hformatters : ∀ f ∈ formatters, f ∈ outer.formatters) :
    formattersText e₁ formatters = formattersText e₂ formatters := by
  cases formatters with
  | nil => rfl
  | cons f rest =>
    have hfirst := Formatter.text_eq_of_names h f (hformatters f List.mem_cons_self)
    have hrest := formattersText_eq_of_names h rest
      fun g hg => hformatters g (List.mem_cons_of_mem f hg)
    rw [formattersText, formattersText, hfirst, hrest]

theorem Chain.text_eq_of_names (c : Chain) (h : ∀ part, c.Names part → part.SameIn e₁ e₂) :
    c.text e₁ = c.text e₂ := by
  obtain ⟨source, formatters⟩ := c
  exact formattersText_eq_of_names h formatters fun f hf => hf

end

end Text

/-- A compiled pattern renders two events alike when they agree in every part that a converter in
it copies, at any depth. So a part that none of them copies, such as a context entry under a key
that no converter asks for, has no influence on what is written. -/
theorem rendering_reads_only_named (registry : Registry) (pattern : String) (e₁ e₂ : Event)
    (buffer : String) :
    let chain := (Pattern.compile registry pattern).chain
    ((∀ part, chain.Names part → part.SameIn e₁ e₂) →
      chain.appendTo e₁ buffer = chain.appendTo e₂ buffer) ∧
    (∀ hidden, ¬ chain.Names hidden → (∀ part, part ≠ hidden → part.SameIn e₁ e₂) →
      chain.appendTo e₁ buffer = chain.appendTo e₂ buffer) := by
  intro chain
  have hnamed : (∀ part, chain.Names part → part.SameIn e₁ e₂) →
      chain.appendTo e₁ buffer = chain.appendTo e₂ buffer := by
    intro h
    rw [Chain.appendTo_eq_append, Chain.appendTo_eq_append, chain.text_eq_of_names h]
  refine ⟨hnamed, ?_⟩
  intro hidden hhidden hothers
  apply hnamed
  intro part hpart
  apply hothers part
  rintro rfl
  exact hhidden hpart

/-- A pattern that tests one context entry does not show another. -/
theorem rendering_reads_only_named_user :
    let chain := (Pattern.compile Registry.builtins
      "%equals\x7b%X\x7buser\x7d\x7d\x7b\x7d\x7banonymous\x7d").chain
    let shown := Event.withContext {} "password" "secret"
    ¬ chain.Names (.entry "password") ∧
    (∀ part : Event.Part, part ≠ .entry "password" → part.SameIn shown {}) ∧
    chain.appendTo shown "> " = chain.appendTo {} "> " := by
  intro chain shown
  have htest : (Pattern.compile Registry.builtins "%X\x7buser\x7d").chain.formatters =
      [⟨.context (some "user"), {}⟩] := by
    have htokens : Pattern.tokens Registry.builtins.isName "%X\x7buser\x7d".toList =
        [.specifier ⟨{}, "X".toList, ⟨["user".toList], none⟩⟩] := by
      decide +kernel
    rw [Pattern.formatters_compile, htokens]
    rfl
  have hformatters : chain.formatters =
      [⟨.equals (Pattern.compile Registry.builtins "%X\x7buser\x7d").chain ""
        (.literal "anonymous"), {}⟩] := by
    have htokens : Pattern.tokens Registry.builtins.isName
        "%equals\x7b%X\x7buser\x7d\x7d\x7b\x7d\x7banonymous\x7d".toList =
          [.specifier ⟨{}, "equals".toList,
            ⟨["%X\x7buser\x7d".toList, "".toList, "anonymous".toList], none⟩⟩] := by
      decide +kernel
    rw [Pattern.formatters_compile, htokens]
    rfl
  have hhidden : ¬ chain.Names (.entry "password") := by
    rintro ⟨inner, hinside, f, hf, hcopies⟩
    cases hinside with
    | self =>
      rw [hformatters] at hf
      cases List.mem_singleton.mp hf
      exact hcopies
    | substitution mem =>
      rw [hformatters] at mem
      cases List.mem_singleton.mp mem
    | test mem hinside =>
      rw [hformatters] at mem
      cases List.mem_singleton.mp mem
      cases hinside with
      | self =>
        rw [htest] at hf
        cases List.mem_singleton.mp hf
        simp [Converter.Copies] at hcopies
      | test mem | substitution mem =>
        rw [htest] at mem
        cases List.mem_singleton.mp mem
  have hothers : ∀ part : Event.Part, part ≠ .entry "password" → part.SameIn shown {} := by
    intro part hpart
    cases part with
    | entry key =>
      have hkey : key ≠ "password" := by
        rintro rfl
        exact hpart rfl
      simp only [Event.Part.SameIn, shown, Event.withContext, Dictionary.get?_insert, if_neg hkey]
    | _ => rfl
  have hsame := rendering_reads_only_named Registry.builtins
    "%equals\x7b%X\x7buser\x7d\x7d\x7b\x7d\x7banonymous\x7d" shown {} "> "
  exact ⟨hhidden, hothers, hsame.2 _ hhidden hothers⟩

end LogLayout
