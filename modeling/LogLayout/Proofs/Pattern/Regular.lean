import LogLayout.Proofs.Pattern.Merging
import LogLayout.Proofs.Pattern.Refusal
import LogLayout.Proofs.Registry

namespace LogLayout

/-- The chain itself, and the chains that stand in the tests and substitutions of its `equals`
converters, at any depth. -/
inductive Chain.Inside (inner : Chain) : Chain → Prop where
  | self : Inside inner inner
  | test {outer test : Chain} {expected : String} {substitution : Substitution}
      {width : FieldWidth} (mem : ⟨.equals test expected substitution, width⟩ ∈ outer.formatters)
      (inside : Inside inner test) : Inside inner outer
  | substitution {outer test chain : Chain} {expected : String} {width : FieldWidth}
      (mem : ⟨.equals test expected (.pattern chain), width⟩ ∈ outer.formatters)
      (inside : Inside inner chain) : Inside inner outer

/-- What holds of a chain that was compiled with a registry, apart from the chains inside it. -/
structure Chain.Regular (registry : Registry) (c : Chain) : Prop where
  empty_iff : c.formatters = [] ↔ c.source = ""
  literal : ∀ text width, ⟨.literal text, width⟩ ∈ c.formatters → text ≠ "" ∧ width = {}
  apart : c.formatters.IsChain fun f g =>
    ¬(f.converter.isLiteral = true ∧ g.converter.isLiteral = true)
  width : ∀ f ∈ c.formatters, f.width.WithinLimit
  substitution : ∀ test expected substitution width,
    ⟨.equals test expected substitution, width⟩ ∈ c.formatters →
      ((∃ chain, substitution = .pattern chain) ↔ hasMarker substitution.source = true)
  precision : ∀ width, ⟨.logger (some 0), width⟩ ∉ c.formatters
  key : ∀ width, ⟨.context (some ""), width⟩ ∉ c.formatters
  recompiled : (Pattern.compile registry c.source).chain = c

namespace Pattern

/-- The substitution that is made of some text. -/
def substitutionOf (registry : Registry) (text : String) : Substitution :=
  (Substitution.build text fun _ => compile registry text).1

theorem substitutionOf_cases (registry : Registry) (text : String) :
    (hasMarker text = true ∧
      substitutionOf registry text = .pattern (compile registry text).chain) ∨
    (hasMarker text = false ∧ substitutionOf registry text = .literal text) := by
  cases hmarker : hasMarker text with
  | true => exact .inl ⟨rfl, by simp [substitutionOf, Substitution.build, hmarker]⟩
  | false => exact .inr ⟨rfl, by simp [substitutionOf, Substitution.build, hmarker]⟩

theorem source_chain (registry : Registry) (pattern : String) :
    (compile registry pattern).chain.source = pattern := by
  rw [compile_chain]

theorem formatters_eq_nil_iff (registry : Registry) (pattern : String) :
    (compile registry pattern).chain.formatters = [] ↔ pattern = "" := by
  rw [formatters_compile, formattersOfRuns, List.map_eq_nil_iff, List.splitBy_eq_nil,
    List.map_eq_nil_iff, ← String.toList_eq_nil_iff]
  cases pattern.toList with
  | nil => simp [tokens]
  | cons c cs => simp [tokens]

/-- A converter that a built-in kind makes. -/
inductive Made (registry : Registry) : Converter → Prop where
  | field {converter : Converter} (copies : converter.CopiesField) : Made registry converter
  | equals (test expected substitution : String) :
    Made registry
      (.equals (compile registry test).chain expected (substitutionOf registry substitution))

theorem Made.isLiteral_eq_false {registry : Registry} {converter : Converter}
    (h : Made registry converter) : converter.isLiteral = false := by
  cases h with
  | field copies =>
    cases converter with
    | literal text => exact copies.elim
    | _ => rfl
  | equals test expected substitution => rfl

theorem Made.equals_cases {registry : Registry} {test : Chain} {expected : String}
    {substitution : Substitution} (h : Made registry (.equals test expected substitution)) :
    (∃ part, test = (compile registry part).chain) ∧
    ((∃ part, hasMarker part = true ∧ substitution = .pattern (compile registry part).chain) ∨
      ∃ text, hasMarker text = false ∧ substitution = .literal text) := by
  cases h with
  | field copies => exact copies.elim
  | equals test _ text =>
    refine ⟨⟨test, rfl⟩, ?_⟩
    obtain ⟨hmarker, hpattern⟩ | ⟨hmarker, hliteral⟩ := substitutionOf_cases registry text
    · exact .inl ⟨text, hmarker, hpattern⟩
    · exact .inr ⟨text, hmarker, hliteral⟩

section Builtin

variable {registry : Registry} (hregistry : registry.AllBuiltin)

include hregistry

theorem made_of_mem_values {ts : List Token} {f : Formatter}
    (h : .formatter f ∈ ts.map (·.value registry)) :
    f.width.WithinLimit ∧ Made registry f.converter := by
  obtain ⟨t, -, ht⟩ := List.mem_map.mp h
  cases t with
  | specifier s =>
    obtain ⟨hrefused, -⟩ | ⟨-, r, hr⟩ := s.refused_or_accepted registry
    · rw [Token.value, Specifier.value_of_refused hrefused] at ht
      cases ht
    · rw [Token.value, s.value_eq_request registry 0, hr.request 0] at ht
      cases ht
      refine ⟨WidthText.withinLimit_of_fieldWidth hr.width, ?_⟩
      obtain ⟨converter, hready, hcopies⟩ | ⟨-, test, expected, substitution, -, hequals⟩ :=
        hregistry.prepare_cases hr.blueprint
      · rw [hready]
        exact .field hcopies
      · rw [hequals]
        exact .equals test expected substitution
  | _ => cases ht

/-- The formatters of a compiled pattern: literals with text and without a width, and converters
of built-in kinds with a width within the limit. -/
theorem formatter_cases {pattern : String} {f : Formatter}
    (hf : f ∈ (compile registry pattern).chain.formatters) :
    (∃ text, text ≠ "" ∧ f = ⟨.literal text, {}⟩) ∨
    (f.width.WithinLimit ∧ Made registry f.converter) := by
  rw [formatters_compile] at hf
  obtain hliteral | hmem := mem_formattersOfRuns (fun p => chars_ne_nil_of_mem_values) hf
  · exact .inl hliteral
  · exact .inr (made_of_mem_values hregistry hmem)

/-- The formatters of a compiled pattern that are not literals. -/
theorem made_of_mem {pattern : String} {f : Formatter}
    (hf : f ∈ (compile registry pattern).chain.formatters)
    (hliteral : f.converter.isLiteral = false) : Made registry f.converter := by
  obtain ⟨text, -, rfl⟩ | ⟨-, hmade⟩ := formatter_cases hregistry hf
  · cases hliteral
  · exact hmade

theorem regular_compile (pattern : String) :
    (compile registry pattern).chain.Regular registry where
  empty_iff := by
    rw [formatters_eq_nil_iff, source_chain]
  literal := by
    intro text width hf
    obtain ⟨text', hne, heq⟩ | ⟨-, hmade⟩ := formatter_cases hregistry hf
    · cases heq
      exact ⟨hne, rfl⟩
    · cases hmade.isLiteral_eq_false
  apart := by
    rw [formatters_compile]
    apply isChain_formattersOfRuns
    intro f hf
    exact (made_of_mem_values hregistry hf).2.isLiteral_eq_false
  width := by
    intro f hf
    obtain ⟨text, -, rfl⟩ | ⟨hwidth, -⟩ := formatter_cases hregistry hf
    · exact FieldWidth.withinLimit_default
    · exact hwidth
  substitution := by
    intro test expected substitution width hf
    obtain ⟨-, ⟨part, hmarker, rfl⟩ | ⟨text, hmarker, rfl⟩⟩ :=
      (made_of_mem hregistry hf rfl).equals_cases
    · rw [Substitution.source, source_chain]
      exact ⟨fun _ => hmarker, fun _ => ⟨_, rfl⟩⟩
    · rw [Substitution.source, hmarker]
      simp
  precision := by
    intro width hf
    cases made_of_mem hregistry hf rfl with
    | field copies => exact copies rfl
  key := by
    intro width hf
    cases made_of_mem hregistry hf rfl with
    | field copies => exact copies rfl
  recompiled := by
    rw [source_chain]

/-- The chains inside a compiled pattern are compiled patterns. -/
theorem exists_compile_of_inside {inner outer : Chain} (h : inner.Inside outer) {pattern : String}
    (houter : outer = (compile registry pattern).chain) :
    ∃ part, inner = (compile registry part).chain := by
  induction h generalizing pattern with
  | self => exact ⟨pattern, houter⟩
  | test mem _ ih =>
    subst houter
    obtain ⟨⟨part, htest⟩, -⟩ := (made_of_mem hregistry mem rfl).equals_cases
    exact ih htest
  | substitution mem _ ih =>
    subst houter
    obtain ⟨-, ⟨part, -, hpattern⟩ | ⟨text, -, hliteral⟩⟩ :=
      (made_of_mem hregistry mem rfl).equals_cases
    · exact ih (Substitution.pattern.inj hpattern)
    · cases hliteral

end Builtin

/-- Every chain in a pattern that is compiled with built-in kinds, at any depth, is regular: it is
empty only for an empty pattern, its literals have text and no width and are never neighbours, its
widths and options are ones that were accepted, and its own source compiles to it again. -/
theorem regular_of_inside {registry : Registry} (hregistry : registry.AllBuiltin)
    {pattern : String} {c : Chain} (h : c.Inside (compile registry pattern).chain) :
    c.Regular registry := by
  obtain ⟨part, rfl⟩ := exists_compile_of_inside hregistry h rfl
  exact regular_compile hregistry part

/-- The chain of a substitution in an `equals` converter. -/
theorem regular_of_inside_equals :
    Registry.builtins.AllBuiltin ∧
    (compile Registry.builtins "%c\x7b2\x7d!").chain.Inside
      (compile Registry.builtins "%equals\x7b%-5p\x7d\x7bINFO \x7d\x7b%c\x7b2\x7d!\x7d").chain ∧
    (compile Registry.builtins "%c\x7b2\x7d!").chain.Regular Registry.builtins := by
  have htokens : tokens Registry.builtins.isName
      "%equals\x7b%-5p\x7d\x7bINFO \x7d\x7b%c\x7b2\x7d!\x7d".toList =
        [.specifier ⟨{}, "equals".toList,
          ⟨["%-5p".toList, "INFO ".toList, "%c\x7b2\x7d!".toList], none⟩⟩] := by
    decide +kernel
  have hmem : ⟨.equals (compile Registry.builtins "%-5p").chain "INFO "
        (.pattern (compile Registry.builtins "%c\x7b2\x7d!").chain), {}⟩ ∈
      (compile Registry.builtins
        "%equals\x7b%-5p\x7d\x7bINFO \x7d\x7b%c\x7b2\x7d!\x7d").chain.formatters := by
    rw [formatters_compile, htokens]
    exact List.mem_singleton.mpr rfl
  have hinside := Chain.Inside.substitution hmem .self
  exact ⟨Registry.allBuiltin_builtins, hinside,
    regular_of_inside Registry.allBuiltin_builtins hinside⟩

end Pattern

end LogLayout
