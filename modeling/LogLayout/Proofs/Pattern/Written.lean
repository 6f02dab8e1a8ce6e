import LogLayout.Proofs.Pattern.Segmentation
import LogLayout.Proofs.Pattern.Values

namespace LogLayout

namespace FieldWidth

/-- A width as it is written in a specifier, where a minimum of zero is left out. -/
def written (w : FieldWidth) : String :=
  (if w.alignLeft then "-" else "") ++ (if 0 < w.minimum then toString w.minimum else "") ++
    (if w.maximum.isSome || !w.cutLeft then "." else "") ++ (if w.cutLeft then "" else "-") ++
    (w.maximum.map toString).getD ""

end FieldWidth

namespace Pattern

namespace WidthText

/-- The written form of a width, taken apart. -/
def ofFieldWidth (w : FieldWidth) : WidthText where
  dash := w.alignLeft
  minimum := if 0 < w.minimum then Nat.toDigits 10 w.minimum else []
  maximum :=
    if w.maximum.isSome || !w.cutLeft then some (!w.cutLeft, w.maximum.elim [] (Nat.toDigits 10))
    else none

theorem toList_dash (dash : Bool) :
    (if dash then "-" else "").toList = dashSource dash := by
  cases dash <;> rfl

theorem source_ofFieldWidth (w : FieldWidth) : (ofFieldWidth w).source = w.written.toList := by
  have hminimum : (if 0 < w.minimum then toString w.minimum else "").toList =
      if 0 < w.minimum then Nat.toDigits 10 w.minimum else [] := by
    by_cases hpos : 0 < w.minimum
    · rw [if_pos hpos, if_pos hpos, Nat.toString_eq_repr, Nat.toList_repr]
    · rw [if_neg hpos, if_neg hpos, String.toList_empty]
  simp only [FieldWidth.written, source, ofFieldWidth, String.toList_append, toList_dash, hminimum,
    List.append_assoc]
  -- What is left is the part behind the minimum, for each shape of the maximum and the cut.
  cases w.maximum with
  | none => cases w.cutLeft <;> rfl
  | some m => cases w.cutLeft <;> simp [dashSource, Nat.toString_eq_repr, Nat.toList_repr]

theorem isDigit_of_mem_toDigits {n : Nat} {c : Char} (h : c ∈ Nat.toDigits 10 n) :
    c.isDigit = true :=
  Nat.isDigit_of_mem_toDigits (by decide) (by decide) h

theorem wellFormed_ofFieldWidth (w : FieldWidth) : (ofFieldWidth w).WellFormed := by
  refine ⟨?_, ?_⟩
  · intro c hc
    simp only [ofFieldWidth] at hc
    split at hc
    · exact isDigit_of_mem_toDigits hc
    · cases hc
  · intro dash digits hmaximum c hc
    simp only [ofFieldWidth] at hmaximum
    split at hmaximum
    · simp only [Option.some.injEq, Prod.mk.injEq] at hmaximum
      obtain ⟨-, rfl⟩ := hmaximum
      cases hm : w.maximum with
      | none => simp [hm] at hc
      | some m =>
        rw [hm] at hc
        exact isDigit_of_mem_toDigits hc
    · cases hmaximum

theorem bounded_toDigits {n : Nat} (h : n ≤ FieldWidth.limit) :
    bounded (Nat.toDigits 10 n) = .ok n := by
  have hvalue : Text.decimalValue (Nat.toDigits 10 n) = n := Nat.ofDigitChars_ten_toDigits
  rw [bounded, hvalue, if_pos h]

/-- A width that is written means itself. -/
theorem fieldWidth_ofFieldWidth {w : FieldWidth} (h : w.WithinLimit) :
    (ofFieldWidth w).fieldWidth = .ok w := by
  obtain ⟨minimum, maximum, alignLeft, cutLeft⟩ := w
  have hminimum : bounded (if 0 < minimum then Nat.toDigits 10 minimum else []) = .ok minimum := by
    by_cases hpos : 0 < minimum
    · rw [if_pos hpos, bounded_toDigits h.minimum]
    · obtain rfl : minimum = 0 := by omega
      rfl
  cases maximum with
  | none =>
    cases cutLeft with
    | false => exact fieldWidth_of_bounded hminimum (show bounded [] = .ok 0 from rfl)
    | true =>
      simp only [fieldWidth, ofFieldWidth, hminimum]
      rfl
  | some m =>
    have hwritten : ofFieldWidth ⟨minimum, some m, alignLeft, cutLeft⟩ =
        ⟨alignLeft, _, some (!cutLeft, Nat.toDigits 10 m)⟩ := rfl
    have hdigits : (Nat.toDigits 10 m).isEmpty = false := by simp [Nat.toDigits_ne_nil]
    rw [hwritten, fieldWidth_of_bounded hminimum (bounded_toDigits (h.maximum m rfl)), hdigits,
      Bool.not_not]
    rfl

end WidthText

/-- The pattern that is one specifier. -/
def specifierPattern (w : FieldWidth) (key : String) (options : List String) : String :=
  "%" ++ w.written ++ key ++ String.join (options.map fun o => "\x7b" ++ o ++ "\x7d")

/-- The specifier of that pattern. -/
def Specifier.written (w : FieldWidth) (key : String) (options : List String) : Specifier where
  width := .ofFieldWidth w
  name := key.toList
  groups := { closed := options.map String.toList }

section Written

variable {w : FieldWidth} {key : String} {options : List String}

theorem Specifier.key_written : (Specifier.written w key options).key = key :=
  String.ofList_toList

theorem Specifier.options_written : (Specifier.written w key options).options = options := by
  simp [written, Specifier.options, OptionGroups.options, OptionGroups.texts, Function.comp_def]

theorem OptionGroups.source_closed (options : List String) :
    source { closed := options.map String.toList } =
      (String.join (options.map fun o => "\x7b" ++ o ++ "\x7d")).toList := by
  induction options with
  | nil => rfl
  | cons o options ih =>
    have hcons : ({ closed := (o :: options).map String.toList } : OptionGroups) =
        cons o.toList { closed := options.map String.toList } := rfl
    rw [hcons, source_cons, ih, List.map_cons, String.join_cons]
    simp

theorem toList_specifierPattern :
    (specifierPattern w key options).toList = (Specifier.written w key options).source := by
  rw [Specifier.source, Specifier.written, WidthText.source_ofFieldWidth,
    OptionGroups.source_closed]
  simp [specifierPattern, marker]

variable {registry : Registry}

theorem tokens_specifierPattern (hnonempty : key ≠ "")
    (hletters : ∀ c ∈ key.toList, c.isAlpha = true) (hknown : registry.contains key = true)
    (hbalanced : ∀ o ∈ options, Balanced o.toList) :
    tokens registry.isName (specifierPattern w key options).toList =
      [.specifier (.written w key options)] := by
  have hfits : (Specifier.written w key options).Fits registry.isName [] := by
    apply Specifier.fits_nil
    · exact WidthText.wellFormed_ofFieldWidth w
    · simpa [Specifier.written] using hnonempty
    · exact hletters
    · simpa [Specifier.written, Registry.isName] using hknown
    · intro text htext
      obtain ⟨o, ho, rfl⟩ := List.mem_map.mp htext
      exact hbalanced o ho
    · rfl
  have hone := Segmentation.cons (t := .specifier _) hfits .nil
  rw [List.append_nil, Token.source, ← toList_specifierPattern] at hone
  exact (segmentation_iff.mp hone).symm

theorem Specifier.value_written (hnonempty : key ≠ "") (hw : w.WithinLimit) :
    (Specifier.written w key options).value registry =
      match registry.create key options with
      | .ok (converter, _) => .formatter ⟨converter, w⟩
      | .error _ => .text (specifierPattern w key options).toList := by
  have hwidth : (Specifier.written w key options).width.fieldWidth = .ok w :=
    WidthText.fieldWidth_ofFieldWidth hw
  have hname : (Specifier.written w key options).name ≠ [] := by
    simpa [Specifier.written] using hnonempty
  rw [value, hwidth, key_written, options_written, toList_specifierPattern]
  cases registry.create key options with
  | error err => rfl
  | ok created => exact if_neg hname

end Written

/-- A specifier is read back as it was written. Its pattern compiles to one formatter, with the
width and with the converter that the registry makes under the key for the options, or to one
literal that is the whole pattern where the registry makes none. -/
theorem compile_specifierPattern (registry : Registry) {w : FieldWidth} (hw : w.WithinLimit)
    {key : String} (hnonempty : key ≠ "") (hletters : ∀ c ∈ key.toList, c.isAlpha = true)
    (hknown : registry.contains key = true) {options : List String}
    (hbalanced : ∀ o ∈ options, Balanced o.toList) :
    (compile registry (specifierPattern w key options)).chain =
      ⟨specifierPattern w key options,
        match registry.create key options with
        | .ok (converter, _) => [⟨converter, w⟩]
        | .error _ => [⟨.literal (specifierPattern w key options), {}⟩]⟩ := by
  have htokens := tokens_specifierPattern (w := w) hnonempty hletters hknown hbalanced
  rw [compile_chain, htokens, List.map_singleton, Token.value,
    Specifier.value_written hnonempty hw]
  cases registry.create key options with
  | ok created => rfl
  | error err =>
    have hpending : specifierPattern w key options ≠ "" := by
      simp [specifierPattern]
    simp [formattersOf, Draft.add, Draft.flush, hpending]

/-- A point and a dash without digits, before a key that other keys start with, and an option that
holds a specifier; and a maximum of zero on a specifier whose option is refused. -/
theorem compile_specifierPattern_nested :
    (compile Registry.builtins (specifierPattern { alignLeft := true, cutLeft := false } "m"
        ["%5msg\x7b7\x7d%", ""])).chain =
      ⟨"%-.-m\x7b%5msg\x7b7\x7d%\x7d\x7b\x7d",
        [⟨.message, { alignLeft := true, cutLeft := false }⟩]⟩ ∧
    (compile Registry.builtins (specifierPattern { maximum := some 0 } "logger" ["zero"])).chain =
      ⟨"%.0logger\x7bzero\x7d", [⟨.literal "%.0logger\x7bzero\x7d", {}⟩]⟩ := by
  have hcut : FieldWidth.WithinLimit { alignLeft := true, cutLeft := false } :=
    ⟨by decide, by decide⟩
  have hnone : FieldWidth.WithinLimit { maximum := some 0 } := ⟨by decide, by decide⟩
  have hm : ∀ c ∈ "m".toList, c.isAlpha = true := List.all_eq_true.mp rfl
  have hlogger : ∀ c ∈ "logger".toList, c.isAlpha = true := List.all_eq_true.mp rfl
  refine ⟨?_, ?_⟩
  · exact compile_specifierPattern Registry.builtins hcut (by decide) hm (by decide) (by decide)
  · exact compile_specifierPattern Registry.builtins hnone (by decide) hlogger (by decide)
      (by decide)

end Pattern

end LogLayout
