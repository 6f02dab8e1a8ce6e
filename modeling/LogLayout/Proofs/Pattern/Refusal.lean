import LogLayout.Proofs.Pattern.Values

namespace LogLayout

/-- Whether a diagnostic is a complaint about a specifier at a byte position. -/
def Diagnostic.RefusedAt (position : Nat) : Diagnostic → Prop
  | .converterCreationFailed _ p _ => p = position
  | .unrecognizedSpecifier _ p => p = position
  | _ => False

namespace Pattern

namespace Specifier

/-- Whether a specifier is refused: its width is not accepted, it has no name, or the registry
makes no converter of it. -/
def refused (registry : Registry) (s : Specifier) : Bool :=
  !s.width.fieldWidth.isOk || s.name.isEmpty || !(registry.create s.key s.options).isOk

/-- What it means that a specifier is not refused. -/
structure Accepted (registry : Registry) (s : Specifier) (r : Request) : Prop where
  width : s.width.fieldWidth = .ok r.width
  name : s.name ≠ []
  blueprint : registry.prepare s.key s.options = .ok r.blueprint
  request : ∀ position, s.request registry position = .ok r

theorem isOk_create (registry : Registry) (key : String) (options : List String) :
    (registry.create key options).isOk = (registry.prepare key options).isOk := by
  rw [Registry.create_eq_map]
  cases registry.prepare key options <;> rfl

/-- A specifier is either refused at every position or accepted at every position. -/
theorem refused_or_accepted (registry : Registry) (s : Specifier) :
    (s.refused registry = true ∧
      ∀ position, ∃ d, s.request registry position = .error d ∧ d.RefusedAt position) ∨
    (s.refused registry = false ∧ ∃ r, s.Accepted registry r) := by
  simp only [refused, isOk_create]
  cases hwidth : s.width.fieldWidth with
  | error err =>
    refine .inl ⟨rfl, fun position => ?_⟩
    exact ⟨.converterCreationFailed s.key position err.message,
      by simp only [request, hwidth], rfl⟩
  | ok width =>
    by_cases hname : s.name = []
    · refine .inl ⟨by simp [hname], fun position => ?_⟩
      exact ⟨.unrecognizedSpecifier "" position, by simp [request, hwidth, hname], rfl⟩
    · cases hblueprint : registry.prepare s.key s.options with
      | error err =>
        refine .inl ⟨by simp [Except.isOk, Except.toBool], fun position => ?_⟩
        cases err with
        | unknownConverter key =>
          exact ⟨.unrecognizedSpecifier s.key position,
            by simp [request, hwidth, hname, hblueprint], rfl⟩
        | _ =>
          exact ⟨.converterCreationFailed s.key position _,
            by simp [request, hwidth, hname, hblueprint]; rfl, rfl⟩
      | ok blueprint =>
        refine .inr ⟨by simp [Except.isOk, Except.toBool, hname], ⟨width, blueprint⟩, ?_⟩
        exact ⟨hwidth, hname, hblueprint, fun position => by
          simp [request, hwidth, hname, hblueprint]⟩

variable {registry : Registry} {s : Specifier}

theorem exists_accepted (h : s.refused registry = false) : ∃ r, s.Accepted registry r := by
  obtain ⟨hrefused, -⟩ | ⟨-, haccepted⟩ := s.refused_or_accepted registry
  · rw [hrefused] at h
    cases h
  · exact haccepted

theorem exists_refusal (h : s.refused registry = true) (position : Nat) :
    ∃ d, s.request registry position = .error d ∧ d.RefusedAt position := by
  obtain ⟨-, hrefusal⟩ | ⟨haccepted, -⟩ := s.refused_or_accepted registry
  · exact hrefusal position
  · rw [haccepted] at h
    cases h

/-- A refused specifier is kept as text, is reported once, and leaves the compiler alone. -/
theorem compile_of_refused (h : s.refused registry = true) (position : Nat) :
    ∃ d, d.RefusedAt position ∧ ∀ c : String → Compiled,
      s.compile registry position (fun p _ => c p) = (.text s.source, [d]) := by
  obtain ⟨d, hrequest, hd⟩ := exists_refusal h position
  exact ⟨d, hd, fun c => compile_of_error c hrequest⟩

theorem value_of_refused (h : s.refused registry = true) :
    s.value registry = .text s.source := by
  obtain ⟨d, hrequest, -⟩ := exists_refusal h 0
  rw [s.value_eq_request registry 0, hrequest]

end Specifier

namespace Token

/-- Whether a token is a specifier that is refused. -/
def refused (registry : Registry) : Token → Bool
  | .specifier s => s.refused registry
  | _ => false

/-- What is reported while a token at a byte position is compiled. -/
def reports (registry : Registry) (x : Nat × Token) : List Diagnostic :=
  (x.2.compile registry x.1 fun p _ => Pattern.compile registry p).2

variable {registry : Registry} {t : Token}

theorem value_of_refused (h : t.refused registry = true) : t.value registry = .text t.source := by
  cases t with
  | specifier s => exact Specifier.value_of_refused h
  | _ => cases h

end Token

/-- What is reported for a pattern is what is reported for its tokens, in order. -/
theorem diagnostics_compile (registry : Registry) (pattern : String) :
    (compile registry pattern).diagnostics =
      (locate 0 (tokens registry.isName pattern.toList)).flatMap (Token.reports registry) := by
  rw [compile_eq, assemble, List.flatMap_map]
  rfl

end Pattern

end LogLayout
