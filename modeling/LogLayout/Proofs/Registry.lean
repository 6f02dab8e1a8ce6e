import LogLayout.Proofs.Dictionary
import LogLayout.Registry

namespace LogLayout

/-- Whether a kind is one of those that the built-in registry uses. -/
def ConverterKind.IsBuiltin : ConverterKind → Prop
  | .literal | .custom .. => False
  | _ => True

instance : DecidablePred ConverterKind.IsBuiltin
  | .literal | .custom .. => inferInstanceAs (Decidable False)
  | .equals | .logger | .level | .message | .thread | .context | .lineSeparator =>
    inferInstanceAs (Decidable True)

/-- Whether a converter is made without patterns, and from options that a built-in kind accepts:
no segments at all and the empty key are never asked for. -/
def Converter.CopiesField : Converter → Prop
  | .logger precision => precision ≠ some 0
  | .level | .message | .thread | .lineSeparator => True
  | .context key => key ≠ some ""
  | .literal _ | .equals .. | .custom .. => False

theorem loggerPrecision_ne_zero {options : List String} {precision : Option Nat}
    (h : loggerPrecision options = .ok precision) : precision ≠ some 0 := by
  cases options with
  | nil =>
    cases h
    simp
  | cons option options =>
    simp only [loggerPrecision] at h
    split at h
    · cases h
      simp
    · split at h
      · rename_i n hn
        cases h
        have hpos := (Option.filter_eq_some_iff.mp hn).2
        rintro ⟨⟩
        simp at hpos
      · cases h

theorem contextKey_ne_empty (options : List String) : contextKey options ≠ some "" := by
  intro h
  have hne := (Option.filter_eq_some_iff.mp h).2
  simp at hne

/-- The options of an `equals` converter are accepted when there are three of them. -/
theorem EqualsOptions.ofList_cases (options : List String) :
    (∃ test expected substitution, options = [test, expected, substitution] ∧
      ofList (options.map some) = .ok ⟨test, expected, substitution⟩) ∨
    (options.length ≠ count ∧ ∃ err, ofList (options.map some) = .error err) := by
  match options with
  | [test, expected, substitution] => exact .inl ⟨test, expected, substitution, rfl, rfl⟩
  | [] | [_] | [_, _] | _ :: _ :: _ :: _ :: _ => exact .inr ⟨by simp [count], _, rfl⟩

theorem ConverterKind.IsBuiltin.prepare_cases {kind : ConverterKind} (hkind : kind.IsBuiltin)
    {options : List String} {b : Blueprint} (h : kind.prepare options = .ok b) :
    (∃ converter, b = .ready converter ∧ converter.CopiesField) ∨
    (kind = .equals ∧ ∃ test expected substitution, options = [test, expected, substitution] ∧
      b = .equals ⟨test, expected, substitution⟩) := by
  cases kind with
  | equals =>
    rw [prepare] at h
    obtain ⟨test, expected, substitution, hoptions, hlist⟩ | ⟨-, err, hlist⟩ :=
      EqualsOptions.ofList_cases options
    · rw [hlist] at h
      cases h
      exact .inr ⟨rfl, test, expected, substitution, hoptions, rfl⟩
    · rw [hlist] at h
      cases h
  | logger =>
    cases hprecision : loggerPrecision options with
    | error err =>
      rw [prepare, hprecision] at h
      cases h
    | ok precision =>
      rw [prepare, hprecision] at h
      cases h
      exact .inl ⟨_, rfl, loggerPrecision_ne_zero hprecision⟩
  | context =>
    cases h
    exact .inl ⟨_, rfl, contextKey_ne_empty options⟩
  | literal => exact hkind.elim
  | custom factory given => exact hkind.elim
  | level | message | thread | lineSeparator =>
    cases h
    exact .inl ⟨_, rfl, trivial⟩

namespace Registry

/-- Every key, whichever it is, stands for a built-in kind. -/
def AllBuiltin (registry : Registry) : Prop :=
  ∀ key kind, registry.get? key = some kind → kind.IsBuiltin

theorem allBuiltin_builtins : builtins.AllBuiltin := by
  have hentries : ∀ entry ∈ builtins.entries, entry.2.IsBuiltin := by decide
  intro key kind h
  exact hentries (key, kind) ((Dictionary.mem_entries_iff _ key kind).mpr h)

/-- What a registry of built-in kinds makes of options that it accepts. -/
theorem AllBuiltin.prepare_cases {registry : Registry} (hregistry : registry.AllBuiltin)
    {key : String} {options : List String} {b : Blueprint}
    (h : registry.prepare key options = .ok b) :
    (∃ converter, b = .ready converter ∧ converter.CopiesField) ∨
    (registry.get? key = some .equals ∧ ∃ test expected substitution,
      options = [test, expected, substitution] ∧ b = .equals ⟨test, expected, substitution⟩) := by
  rw [prepare] at h
  cases hkind : registry.get? key with
  | none => simp [hkind] at h
  | some kind =>
    simp only [hkind] at h
    obtain hready | ⟨rfl, hequals⟩ := (hregistry key kind hkind).prepare_cases h
    · exact .inl hready
    · exact .inr ⟨rfl, hequals⟩

end Registry

end LogLayout
