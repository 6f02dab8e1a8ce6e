import LogLayout.Proofs.Pattern.Segmentation
import LogLayout.Proofs.Pattern.Values

namespace LogLayout.Pattern

/-- Text without a marker is cut into its characters. -/
theorem tokens_eq_map_char {isName : List Char → Bool} {cs : List Char} (h : marker ∉ cs) :
    tokens isName cs = cs.map .char := by
  have hsegmentation : Segmentation isName cs (cs.map .char) := by
    induction cs with
    | nil => exact .nil
    | cons c cs ih =>
      have hfits : (Token.char c).Fits isName cs := by
        rintro rfl
        exact h List.mem_cons_self
      exact .cons hfits (ih fun hmem => h (List.mem_cons_of_mem c hmem))
  exact (segmentation_iff.mp hsegmentation).symm

theorem renderTokens_map_char (registry : Registry) (e : Event) (cs : List Char) :
    renderTokens registry e (cs.map .char) = String.ofList cs := by
  induction cs with
  | nil => rfl
  | cons c cs ih =>
    rw [List.map_cons, renderTokens_cons, ih, ← List.singleton_append, String.ofList_append]
    rfl

/-- A pattern without a marker renders as it is written. -/
theorem render_of_hasMarker_eq_false {pattern : String} (h : hasMarker pattern = false)
    (registry : Registry) (e : Event) : render registry pattern e = pattern := by
  have hmarker : marker ∉ pattern.toList := by simpa [hasMarker, marker] using h
  rw [render_eq_text, text_compile, tokens_eq_map_char hmarker, renderTokens_map_char,
    String.ofList_toList]

/-- What an `equals` converter is to write. -/
def equalsText (registry : Registry) (test expected substitution : String) (e : Event) : String :=
  if render registry test e = expected then render registry substitution e
  else render registry test e

theorem text_build_substitution (registry : Registry) (text : String) (e : Event) :
    (Substitution.build text fun _ => compile registry text).1.text e =
      render registry text e := by
  by_cases hmarker : hasMarker text = true
  · rw [Substitution.build, dif_pos hmarker, render_eq_text]
    rfl
  · rw [Substitution.build, dif_neg hmarker,
      render_of_hasMarker_eq_false (Bool.eq_false_iff.mpr hmarker)]
    rfl

theorem text_build_equals (registry : Registry) (o : EqualsOptions) (e : Event) :
    (o.build fun p _ => compile registry p).1.text e =
      equalsText registry o.test o.expected o.substitution e := by
  have hsubstitution := text_build_substitution registry o.substitution e
  simp only [EqualsOptions.build, Converter.text, hsubstitution, equalsText, render_eq_text]

/-- The pattern that is one `equals` specifier. -/
def equalsPattern (test expected substitution : String) : String :=
  "%equals\x7b" ++ test ++ "\x7d\x7b" ++ expected ++ "\x7d\x7b" ++ substitution ++ "\x7d"

/-- The specifier of that pattern. -/
def equalsSpecifier (test expected substitution : String) : Specifier where
  width := {}
  name := "equals".toList
  groups := { closed := [test.toList, expected.toList, substitution.toList] }

section Equals

variable {registry : Registry} {test expected substitution : String}

theorem toList_equalsPattern : (equalsPattern test expected substitution).toList =
    (equalsSpecifier test expected substitution).source := by
  simp [equalsPattern, equalsSpecifier, Specifier.source, WidthText.source, WidthText.dashSource,
    OptionGroups.source, marker]

theorem options_equalsSpecifier :
    (equalsSpecifier test expected substitution).options = [test, expected, substitution] := by
  simp [equalsSpecifier, Specifier.options, OptionGroups.options, OptionGroups.texts]

theorem fits_equalsSpecifier (htest : Balanced test.toList) (hexpected : Balanced expected.toList)
    (hsubstitution : Balanced substitution.toList)
    (hequals : registry.get? "equals" = some .equals) :
    (equalsSpecifier test expected substitution).Fits registry.isName [] := by
  have hknown : registry.isName "equals".toList = true := by
    rw [Registry.isName, String.ofList_toList, Dictionary.contains, hequals]
    rfl
  have hletters : "equals".toList.all Char.isAlpha = true := by decide
  apply Specifier.fits_nil
  · exact ⟨by simp [equalsSpecifier], by simp [equalsSpecifier]⟩
  · simp [equalsSpecifier]
  · exact List.all_eq_true.mp hletters
  · exact hknown
  · simp [equalsSpecifier, htest, hexpected, hsubstitution]
  · rfl

theorem tokens_equalsPattern (htest : Balanced test.toList) (hexpected : Balanced expected.toList)
    (hsubstitution : Balanced substitution.toList)
    (hequals : registry.get? "equals" = some .equals) :
    tokens registry.isName (equalsPattern test expected substitution).toList =
      [.specifier (equalsSpecifier test expected substitution)] := by
  have hfits := fits_equalsSpecifier htest hexpected hsubstitution hequals
  have hone := Segmentation.cons (t := .specifier _) hfits .nil
  rw [List.append_nil, Token.source, ← toList_equalsPattern] at hone
  exact (segmentation_iff.mp hone).symm

theorem create_equals (registry : Registry) (test expected substitution : String) :
    ∃ converter diagnostics,
      ConverterKind.equals.create registry [test, expected, substitution] =
        .ok (converter, diagnostics) ∧
      (∀ e, converter.text e = equalsText registry test expected substitution e) ∧
      (hasMarker substitution = false →
        converter = .equals (compile registry test).chain expected (.literal substitution)) := by
  have hcreate : ConverterKind.equals.create registry [test, expected, substitution] =
      .ok (EqualsOptions.build ⟨test, expected, substitution⟩ fun p _ => compile registry p) := rfl
  have htext := text_build_equals registry ⟨test, expected, substitution⟩
  have hliteral : hasMarker substitution = false →
      (EqualsOptions.build ⟨test, expected, substitution⟩ fun p _ => compile registry p).1 =
        .equals (compile registry test).chain expected (.literal substitution) := by
    intro hmarker
    simp [EqualsOptions.build, Substitution.build, hmarker]
  revert hcreate htext hliteral
  cases EqualsOptions.build ⟨test, expected, substitution⟩ fun p _ => compile registry p with
  | mk converter diagnostics =>
    intro hcreate htext hliteral
    exact ⟨converter, diagnostics, hcreate, htext, hliteral⟩

theorem text_equalsPattern (htest : Balanced test.toList) (hexpected : Balanced expected.toList)
    (hsubstitution : Balanced substitution.toList)
    (hequals : registry.get? "equals" = some .equals) (e : Event) :
    (compile registry (equalsPattern test expected substitution)).chain.text e =
      equalsText registry test expected substitution e := by
  obtain ⟨converter, diagnostics, hcreate, htext, -⟩ :=
    create_equals registry test expected substitution
  have hvalue : (equalsSpecifier test expected substitution).value registry =
      .formatter ⟨converter, {}⟩ := by
    have hwidth : (equalsSpecifier test expected substitution).width.fieldWidth = .ok {} := rfl
    have hkey : (equalsSpecifier test expected substitution).key = "equals" :=
      String.ofList_toList
    have hname : (equalsSpecifier test expected substitution).name ≠ [] := by
      simp [equalsSpecifier]
    simp only [Specifier.value, hwidth, hkey, options_equalsSpecifier, Registry.create, hequals,
      hcreate, if_neg hname]
  rw [text_compile, tokens_equalsPattern htest hexpected hsubstitution hequals, renderTokens_cons,
    Token.value, hvalue, Piece.rendered, Formatter.text, FieldWidth.fit_default, htext]
  exact String.append_empty

end Equals

/-- An `equals` converter is made of any three options, and writes what they render by themselves.
A substitution without a marker is kept as it is and gives what it would give if it were compiled.
Options with balanced braces mean the same when they are written in a pattern. -/
theorem equals_writes_equalsText (registry : Registry) (test expected substitution : String) :
    (∃ converter diagnostics,
      ConverterKind.equals.create registry [test, expected, substitution] =
        .ok (converter, diagnostics) ∧
      (∀ e buffer, converter.appendTo e buffer =
        buffer ++ equalsText registry test expected substitution e) ∧
      (hasMarker substitution = false →
        converter = .equals (compile registry test).chain expected (.literal substitution) ∧
        ∀ e, render registry substitution e = substitution)) ∧
    (Balanced test.toList → Balanced expected.toList → Balanced substitution.toList →
      registry.get? "equals" = some .equals → ∀ e buffer,
        (compile registry (equalsPattern test expected substitution)).chain.appendTo e buffer =
          buffer ++ equalsText registry test expected substitution e) := by
  refine ⟨?_, ?_⟩
  · obtain ⟨converter, diagnostics, hcreate, htext, hliteral⟩ :=
      create_equals registry test expected substitution
    refine ⟨converter, diagnostics, hcreate, ?_, ?_⟩
    · intro e buffer
      rw [Converter.appendTo_eq_append, htext]
    · intro hmarker
      exact ⟨hliteral hmarker, render_of_hasMarker_eq_false hmarker registry⟩
  · intro htest hexpected hsubstitution hequals e buffer
    rw [Chain.appendTo_eq_append, text_equalsPattern htest hexpected hsubstitution hequals]

/-- A test with an option of its own, and a substitution that is text with braces. -/
theorem equals_writes_equalsText_context :
    hasMarker "\x7badmin\x7d" = false ∧ Balanced "%X\x7buser\x7d".toList ∧
    Balanced "root".toList ∧ Balanced "\x7badmin\x7d".toList ∧
    Registry.builtins.get? "equals" = some .equals ∧
    render Registry.builtins "\x7badmin\x7d" {} = "\x7badmin\x7d" ∧
    (compile Registry.builtins
      (equalsPattern "%X\x7buser\x7d" "root" "\x7badmin\x7d")).chain.appendTo {} "> " =
      "> " ++ equalsText Registry.builtins "%X\x7buser\x7d" "root" "\x7badmin\x7d" {} := by
  have hmarker : hasMarker "\x7badmin\x7d" = false := by decide
  have htest : Balanced "%X\x7buser\x7d".toList := by decide
  have hexpected : Balanced "root".toList := by decide
  have hsubstitution : Balanced "\x7badmin\x7d".toList := by decide
  have hequals : Registry.builtins.get? "equals" = some .equals := rfl
  obtain ⟨⟨converter, diagnostics, -, -, hliteral⟩, hpattern⟩ :=
    equals_writes_equalsText Registry.builtins "%X\x7buser\x7d" "root" "\x7badmin\x7d"
  exact ⟨hmarker, htest, hexpected, hsubstitution, hequals, (hliteral hmarker).2 {},
    hpattern htest hexpected hsubstitution hequals {} "> "⟩

end LogLayout.Pattern
