import LogLayout.Converter
import LogLayout.ConverterError
import LogLayout.Text.Blank
import LogLayout.Text.Numeral

namespace LogLayout

/-- The three options of an `equals` converter. -/
structure EqualsOptions where
  /-- The pattern whose text is tested. -/
  test : String
  /-- The text that it is compared with. -/
  expected : String
  /-- What is written when the two agree. -/
  substitution : String
  deriving DecidableEq, Repr

/-- Whether text holds the character that starts a conversion specifier. -/
def hasMarker (s : String) : Bool := s.toList.contains '%'

namespace EqualsOptions

/-- The number of options that an `equals` converter takes. -/
def count : Nat := 3

/-- The options as given, where `none` stands for one that is absent. Their number is checked
first, then each in order. -/
def ofList (options : List (Option String)) : Except ConverterError EqualsOptions :=
  match options with
  | [test, expected, substitution] =>
    match test, expected, substitution with
    | none, _, _ => .error (.missingPattern "equals")
    | _, none, _ => .error (.missingTestString "equals")
    | _, _, none => .error (.missingSubstitution "equals")
    | some test, some expected, some substitution => .ok { test, expected, substitution }
  | _ => .error (.incorrectOptionCount "equals" count options.length)

/-- The options that are patterns themselves, in the order in which they are compiled: the test
always, the substitution when it holds a marker. -/
def patterns (o : EqualsOptions) : List String :=
  if hasMarker o.substitution then [o.test, o.substitution] else [o.test]

/-- Accepted options hold nothing that was not given. -/
theorem mem_of_mem_patterns {options : List String} {o : EqualsOptions}
    (h : ofList (options.map some) = .ok o) {p : String} (hp : p ∈ o.patterns) : p ∈ options := by
  match options with
  | [test, expected, substitution] =>
    simp only [List.map_cons, List.map_nil, ofList, Except.ok.injEq] at h
    subst h
    simp only [patterns] at hp
    split at hp
    · simp only [List.mem_cons, List.not_mem_nil, or_false] at hp ⊢
      rcases hp with hp | hp <;> simp [hp]
    · simp only [List.mem_cons, List.not_mem_nil, or_false] at hp ⊢
      exact .inl hp
  | [] | [_] | [_, _] | _ :: _ :: _ :: _ :: _ => simp [ofList] at h

end EqualsOptions

/-- What a converter is made from, once its options are accepted. -/
inductive Blueprint where
  /-- A converter without patterns inside. -/
  | ready (converter : Converter)
  | equals (options : EqualsOptions)
  /-- A converter that is made of the chains of some patterns. -/
  | composed (patterns : List String) (make : List Chain → Converter)

/-- The patterns that have to be compiled for a converter, in order. -/
def Blueprint.patterns : Blueprint → List String
  | .ready _ => []
  | .equals options => options.patterns
  | .composed patterns _ => patterns

/-- The kinds of converter that can be registered. -/
inductive ConverterKind where
  | equals
  | logger
  | level
  | message
  | thread
  | context
  | lineSeparator
  /-- Fixed text: the options one after the other. -/
  | literal
  /-- A kind from elsewhere. It accepts or refuses options by rules of its own, and may have any
  of them compiled as patterns, but nothing else, so that compiling ends. -/
  | custom (factory : List String → Except ConverterError Blueprint)
      (given : ∀ options b, factory options = .ok b → ∀ p ∈ b.patterns, p ∈ options)

/-- The precision that the options of a logger converter ask for. Only the first option counts;
one that is blank asks for none. -/
def loggerPrecision (options : List String) : Except ConverterError (Option Nat) :=
  match options with
  | [] => .ok none
  | option :: _ =>
    let digits := Text.trimChars option.toList
    if digits.isEmpty then .ok none
    else
      match (Text.word? digits).filter (0 < ·) with
      | some n => .ok (some n)
      | none => .error
        (.invalidOption "logger" (String.ofList digits) "precision must be a positive integer")

/-- The context key that options ask for: the first one, unless it is empty. -/
def contextKey (options : List String) : Option String :=
  options.head?.filter (· ≠ "")

namespace ConverterKind

/-- Checks the options of a converter. -/
def prepare (options : List String) : ConverterKind → Except ConverterError Blueprint
  | .equals => (EqualsOptions.ofList (options.map some)).map .equals
  | .logger => (loggerPrecision options).map (.ready ∘ .logger)
  | .level => .ok (.ready .level)
  | .message => .ok (.ready .message)
  | .thread => .ok (.ready .thread)
  | .context => .ok (.ready (.context (contextKey options)))
  | .lineSeparator => .ok (.ready .lineSeparator)
  | .literal => .ok (.ready (.literal (String.join options)))
  | .custom factory _ => factory options

theorem mem_of_mem_patterns {kind : ConverterKind} {options : List String} {b : Blueprint}
    (h : kind.prepare options = .ok b) {p : String} (hp : p ∈ b.patterns) : p ∈ options := by
  cases kind with
  | equals =>
    cases ho : EqualsOptions.ofList (options.map some) with
    | error err => simp [prepare, ho, Except.map] at h
    | ok o =>
      simp only [prepare, ho, Except.map, Except.ok.injEq] at h
      subst h
      exact EqualsOptions.mem_of_mem_patterns ho hp
  | logger =>
    cases ho : loggerPrecision options with
    | error err => simp [prepare, ho, Except.map] at h
    | ok precision =>
      simp only [prepare, ho, Except.map, Except.ok.injEq] at h
      subst h
      simp [Blueprint.patterns] at hp
  | custom factory given => exact given options b h p hp
  | _ =>
    simp only [prepare, Except.ok.injEq] at h
    subst h
    simp [Blueprint.patterns] at hp

end ConverterKind

/-- Which kind of converter each key stands for. -/
abbrev Registry := Dictionary ConverterKind

namespace Registry

/-- The keys that every pattern may use. -/
def builtins : Registry := Dictionary.ofList [
  ("equals", .equals),
  ("c", .logger), ("logger", .logger),
  ("p", .level), ("level", .level),
  ("m", .message), ("msg", .message), ("message", .message),
  ("t", .thread), ("thread", .thread),
  ("X", .context), ("mdc", .context), ("MDC", .context),
  ("n", .lineSeparator)]

/-- Whether characters are a registered key. -/
def isName (registry : Registry) (name : List Char) : Bool :=
  registry.contains (String.ofList name)

/-- Checks the options of the converter under a key. -/
def prepare (registry : Registry) (key : String) (options : List String) :
    Except ConverterError Blueprint :=
  match registry.get? key with
  | some kind => kind.prepare options
  | none => .error (.unknownConverter key)

/-- What has to be compiled for a converter is among its options. -/
theorem mem_of_mem_patterns {registry : Registry} {key : String} {options : List String}
    {b : Blueprint} (h : registry.prepare key options = .ok b) {p : String}
    (hp : p ∈ b.patterns) : p ∈ options := by
  unfold prepare at h
  split at h
  · exact ConverterKind.mem_of_mem_patterns h hp
  · simp at h

end Registry

end LogLayout
