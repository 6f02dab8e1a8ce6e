import LogLayout.Json.Read
import LogLayout.Proofs.Pattern.WidthText

namespace LogLayout.Json

section Space

variable {c : Char} (hc : isSpace c = true)

include hc

theorem space_cases : c = ' ' ∨ c = '\t' ∨ c = '\n' ∨ c = '\r' := by
  simpa [isSpace, or_assoc] using hc

theorem isDigit_space : c.isDigit = false := by
  rcases space_cases hc with rfl | rfl | rfl | rfl <;> rfl

theorem escaped?_space : escaped? c = none := by
  rcases space_cases hc with rfl | rfl | rfl | rfl <;> rfl

theorem hexDigit?_space : Text.hexDigit? c = none := by
  rcases space_cases hc with rfl | rfl | rfl | rfl <;> rfl

theorem codeUnit?_space (x y z : Char) : codeUnit? x y z c = none := by
  simp [codeUnit?, Text.hexValue?, hexDigit?_space hc]

theorem readDigits_append_space (cs : List Char) :
    readDigits (cs ++ [c]) = (readDigits cs).map fun (digits, rest) => (digits, rest ++ [c]) := by
  have hhead : ∀ d ∈ [c].head?, d.isDigit = false := by
    rintro d ⟨⟩
    exact isDigit_space hc
  have hdrop : (cs ++ [c]).dropWhile Char.isDigit = cs.dropWhile Char.isDigit ++ [c] := by
    rw [List.dropWhile_append]
    split
    · rename_i hempty
      simp [List.isEmpty_iff.mp hempty, isDigit_space hc]
    · rfl
  simp only [readDigits, Text.takeWhile_append_of_head hhead, hdrop]
  split <;> rfl

omit hc in
theorem readWhole_of_head?_ne {cs : List Char} (h : cs.head? ≠ some '0') :
    readWhole cs = readDigits cs := by
  unfold readWhole
  split
  · exact (h rfl).elim
  · rfl

theorem readWhole_append_space (cs : List Char) :
    readWhole (cs ++ [c]) = (readWhole cs).map fun (whole, rest) => (whole, rest ++ [c]) := by
  by_cases hzero : cs.head? = some '0'
  · obtain ⟨rest, rfl⟩ := List.head?_eq_some_iff.mp hzero
    rfl
  · have hspace : (cs ++ [c]).head? ≠ some '0' := by
      cases cs with
      | nil => rcases space_cases hc with rfl | rfl | rfl | rfl <;> decide
      | cons d cs => exact hzero
    rw [readWhole_of_head?_ne hspace, readWhole_of_head?_ne hzero, readDigits_append_space hc]

omit hc in
theorem readFraction_of_head?_ne {cs : List Char} (h : cs.head? ≠ some '.') :
    readFraction cs = some ([], cs) := by
  unfold readFraction
  split
  · exact (h rfl).elim
  · rfl

theorem readFraction_append_space (cs : List Char) :
    readFraction (cs ++ [c]) =
      (readFraction cs).map fun (fraction, rest) => (fraction, rest ++ [c]) := by
  by_cases hpoint : cs.head? = some '.'
  · obtain ⟨rest, rfl⟩ := List.head?_eq_some_iff.mp hpoint
    simp only [List.cons_append, readFraction, readDigits_append_space hc, Option.map_map]
    rfl
  · have hspace : (cs ++ [c]).head? ≠ some '.' := by
      cases cs with
      | nil => rcases space_cases hc with rfl | rfl | rfl | rfl <;> decide
      | cons d cs => exact hpoint
    rw [readFraction_of_head?_ne hspace, readFraction_of_head?_ne hpoint]
    rfl

theorem readExponent_append_space (cs : List Char) :
    readExponent (cs ++ [c]) =
      (readExponent cs).map fun (exponent, rest) => (exponent, rest ++ [c]) := by
  have hletter : ¬(c = 'e' ∨ c = 'E') ∧ ¬(c = '+' ∨ c = '-') := by
    rcases space_cases hc with rfl | rfl | rfl | rfl <;> decide
  cases cs with
  | nil => simp [readExponent, hletter.1]
  | cons d cs =>
    by_cases hd : d = 'e' ∨ d = 'E'
    · cases cs with
      | nil => simp [readExponent, hd, hletter.2, readDigits, isDigit_space hc]
      | cons s cs =>
        by_cases hs : s = '+' ∨ s = '-'
        · simp [readExponent, hd, hs, readDigits_append_space hc, Function.comp_def]
        · have hdigits := readDigits_append_space hc (s :: cs)
          rw [List.cons_append] at hdigits
          simp [readExponent, hd, hs, hdigits, Function.comp_def]
    · simp [readExponent, hd]

theorem readMagnitude_append_space (cs : List Char) :
    readMagnitude (cs ++ [c]) =
      (readMagnitude cs).map fun (digits, rest) => (digits, rest ++ [c]) := by
  simp only [readMagnitude, readWhole_append_space hc]
  cases readWhole cs with
  | none => rfl
  | some whole =>
    simp only [Option.map_some, Option.bind_eq_bind, Option.bind_some, readFraction_append_space hc]
    cases readFraction whole.2 with
    | none => rfl
    | some fraction =>
      simp only [Option.map_some, Option.bind_some, readExponent_append_space hc]
      cases readExponent fraction.2 <;> rfl

omit hc in
theorem readWord_append_space {word : List Char} (hword : c ∉ word) (cs : List Char) :
    readWord word (cs ++ [c]) = (readWord word cs).map (· ++ [c]) := by
  have hstart : word <+: cs ++ [c] ↔ word <+: cs := by
    rw [List.prefix_concat_iff]
    constructor
    · rintro (rfl | h)
      · simp at hword
      · exact h
    · exact .inr
  unfold readWord
  by_cases h : word <+: cs
  · rw [if_pos (List.isPrefixOf_iff_prefix.mpr (hstart.mpr h)),
      if_pos (List.isPrefixOf_iff_prefix.mpr h), List.drop_append_of_le_length h.length_le]
    rfl
  · rw [if_neg (mt List.isPrefixOf_iff_prefix.mp (mt hstart.mp h)),
      if_neg (mt List.isPrefixOf_iff_prefix.mp h)]
    rfl

omit hc in
theorem readString_plain {d : Char} (hquote : d ≠ '"') (hescape : d ≠ '\\') (cs : List Char) :
    readString (d :: cs) =
      if d.toNat < 0x20 then none
      else (readString cs).map fun (pieces, rest) => (.char d :: pieces, rest) := by
  rw [readString.eq_5 d cs hquote (fun _ _ _ _ _ h => (hescape h).elim)
    (fun _ _ h => (hescape h).elim)]
  simp only [hescape, or_false]
  split
  · rfl
  · cases readString cs <;> rfl

omit hc in
theorem readString_escape {d : Char} (hunit : d ≠ 'u') (cs : List Char) :
    readString ('\\' :: d :: cs) = (escaped? d).bind fun e =>
      (readString cs).map fun (pieces, rest) => (.char e :: pieces, rest) := by
  rw [readString.eq_4 d cs fun _ _ _ _ _ h => (hunit h).elim]
  cases escaped? d with
  | none => rfl
  | some e => cases readString cs <;> rfl

omit hc in
/-- A code unit needs four digits. -/
theorem readString_short_unit {cs : List Char} (h : cs.length < 4) :
    readString ('\\' :: 'u' :: cs) = none := by
  rw [readString.eq_4 'u' cs]
  · rfl
  · rintro x y z w rest - rfl
    simp only [List.length_cons] at h
    omega

theorem readString_append_space (cs : List Char) :
    readString (cs ++ [c]) = (readString cs).map fun (pieces, rest) => (pieces, rest ++ [c]) := by
  have hother : c ≠ '"' ∧ c ≠ '\\' ∧ c ≠ 'u' := by
    rcases space_cases hc with rfl | rfl | rfl | rfl <;> decide
  obtain ⟨hquote, hescape, hletter⟩ := hother
  fun_induction readString cs with
  | case1 => simp [readString_plain hquote hescape, readString]
  | case2 rest => rfl
  | case3 x y z w rest ih =>
    simp only [List.cons_append, readString, ih]
    cases codeUnit? x y z w with
    | none => rfl
    | some n => cases readString rest <;> rfl
  | case4 e rest hshort ih =>
    by_cases he : e = 'u'
    · subst he
      have hnone : escaped? 'u' = none := rfl
      -- The space could only be the fourth digit of the code unit.
      rcases rest with _ | ⟨x, _ | ⟨y, _ | ⟨z, _ | ⟨w, rest⟩⟩⟩⟩
      · simp [readString_short_unit, hnone]
      · simp [readString_short_unit, hnone]
      · simp [readString_short_unit, hnone]
      · simp [readString, codeUnit?_space hc, hnone]
      · exact (hshort x y z w rest rfl rfl).elim
    · rw [List.cons_append, List.cons_append, readString_escape he, ih]
      cases escaped? e with
      | none => rfl
      | some d => cases readString rest <;> rfl
  | case5 d rest hd _ hlone hrefused =>
    by_cases hmarker : d = '\\'
    · subst hmarker
      cases rest with
      | nil => simp [readString_escape hletter, escaped?_space hc]
      | cons e rest => exact (hlone e rest rfl rfl).elim
    · have hcontrol : d.toNat < 0x20 := hrefused.resolve_right hmarker
      rw [List.cons_append, readString_plain hd hmarker, if_pos hcontrol]
      rfl
  | case6 d rest hd _ _ hplain ih =>
    obtain ⟨hcontrol, hmarker⟩ := not_or.mp hplain
    rw [List.cons_append, readString_plain hd hmarker, if_neg hcontrol, ih]
    cases readString rest <;> rfl

theorem readToken_append_space (first : Char) (cs : List Char) :
    readToken first (cs ++ [c]) = (readToken first cs).map fun (t, rest) => (t, rest ++ [c]) := by
  have hword : c ∉ ['u', 'l', 'l'] ∧ c ∉ ['r', 'u', 'e'] ∧ c ∉ ['a', 'l', 's', 'e'] := by
    rcases space_cases hc with rfl | rfl | rfl | rfl <;> decide
  unfold readToken
  split
  case h_7 => simp [readString_append_space hc, Function.comp_def]
  case h_8 => simp [readWord_append_space hword.1, Function.comp_def]
  case h_9 => simp [readWord_append_space hword.2.1, Function.comp_def]
  case h_10 => simp [readWord_append_space hword.2.2, Function.comp_def]
  case h_11 => simp [readMagnitude_append_space hc, Function.comp_def]
  case h_12 =>
    split
    · rw [← List.cons_append, readMagnitude_append_space hc]
      simp [Function.comp_def]
    · rfl
  all_goals rfl

omit hc in
theorem tokens?_cons {first : Char} (hfirst : ¬isSpace first = true) (cs : List Char) :
    tokens? (first :: cs) =
      (readToken first cs).bind fun (t, rest) => (tokens? rest).map (t :: ·) := by
  rw [tokens?, if_neg hfirst]
  split
  · rename_i hread
    rw [hread]
    rfl
  · rename_i t rest hread
    rw [hread]
    rfl

theorem tokens?_append_space (cs : List Char) : tokens? (cs ++ [c]) = tokens? cs := by
  fun_induction tokens? cs with
  | case1 => simp [tokens?, hc]
  | case2 first rest hfirst ih => simpa [tokens?, hfirst] using ih
  | case3 first rest hfirst hread =>
    rw [List.cons_append, tokens?_cons hfirst, readToken_append_space hc, hread]
    rfl
  | case4 first rest hfirst t after hread ih =>
    rw [List.cons_append, tokens?_cons hfirst, readToken_append_space hc, hread, ← ih]
    rfl

end Space

/-- White space at the end of JSON text makes no difference. -/
theorem ofText?_push_space {c : Char} (hc : isSpace c = true) (s : String) :
    ofText? (s.push c) = ofText? s := by
  rw [ofText?, String.toList_push, tokens?_append_space hc]
  rfl

end LogLayout.Json
