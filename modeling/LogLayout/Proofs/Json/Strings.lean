import LogLayout.Proofs.Json

namespace LogLayout.Json

/-- A hexadecimal digit, in either case, with its value. -/
def IsHexDigit (value : Nat) (c : Char) : Prop :=
  value < 16 ∧ (c = Nat.digitChar value ∨ c = (Nat.digitChar value).toUpper)
deriving Decidable

/-- A number as four hexadecimal digits. -/
inductive UnitDigits : Nat → List Char → Prop
  | intro {a b c d : Nat} {w x y z : Char} (hw : IsHexDigit a w) (hx : IsHexDigit b x)
    (hy : IsHexDigit c y) (hz : IsHexDigit d z) :
    UnitDigits (((a * 16 + b) * 16 + c) * 16 + d) [w, x, y, z]

/-- The letters that name characters behind a backslash. -/
def shortEscapes : List (Char × Char) :=
  [('"', '"'), ('\\', '\\'), ('/', '/'), ('b', '\x08'), ('f', '\x0C'), ('n', '\n'), ('r', '\r'),
    ('t', '\t')]

/-- The ways to write a piece of a string. Neither a control character nor a quote nor a backslash
stands for itself. -/
inductive StringPiece.Spelling : StringPiece → List Char → Prop
  | plain {c : Char} (hcontrol : 0x20 ≤ c.toNat) (hquote : c ≠ '"') (hescape : c ≠ '\\') :
    Spelling (.char c) [c]
  | short {letter c : Char} (h : (letter, c) ∈ shortEscapes) : Spelling (.char c) ['\\', letter]
  | unit {n : Nat} {digits : List Char} (h : UnitDigits n digits) :
    Spelling (.unit n) ('\\' :: 'u' :: digits)

/-- The pieces of a string, written one behind the other. -/
inductive SpelledPieces : List StringPiece → List Char → Prop
  | nil : SpelledPieces [] []
  | cons {piece : StringPiece} {pieces : List StringPiece} {cs rest : List Char}
    (hpiece : piece.Spelling cs) (hrest : SpelledPieces pieces rest) :
    SpelledPieces (piece :: pieces) (cs ++ rest)

/-- Pieces that stand for characters: each is given by itself, by its number, or, beyond the numbers
of one code unit, by a surrogate pair. -/
inductive StandsFor : List StringPiece → List Char → Prop
  | nil : StandsFor [] []
  | char (c : Char) {pieces : List StringPiece} {cs : List Char} (h : StandsFor pieces cs) :
    StandsFor (.char c :: pieces) (c :: cs)
  | unit {c : Char} (hc : c.toNat < 0x10000) {pieces : List StringPiece} {cs : List Char}
    (h : StandsFor pieces cs) : StandsFor (.unit c.toNat :: pieces) (c :: cs)
  | pair {c : Char} {high low : Nat} (hhigh : high < 0x400) (hlow : low < 0x400)
    (hc : c.toNat = 0x10000 + high * 0x400 + low) {pieces : List StringPiece} {cs : List Char}
    (h : StandsFor pieces cs) :
    StandsFor (.unit (0xD800 + high) :: .unit (0xDC00 + low) :: pieces) (c :: cs)

theorem IsHexDigit.hexDigit?_eq_some {value : Nat} {c : Char} (h : IsHexDigit value c) :
    Text.hexDigit? c = some value := by
  have hdigits : ∀ v < 16, Text.hexDigit? (Nat.digitChar v) = some v ∧
      Text.hexDigit? (Nat.digitChar v).toUpper = some v := by
    decide
  obtain ⟨hvalue, rfl | rfl⟩ := h
  · exact (hdigits value hvalue).1
  · exact (hdigits value hvalue).2

theorem UnitDigits.lt {n : Nat} {digits : List Char} (h : UnitDigits n digits) : n < 0x10000 := by
  obtain ⟨⟨ha, -⟩, ⟨hb, -⟩, ⟨hc, -⟩, ⟨hd, -⟩⟩ := h
  omega

theorem escaped?_of_mem {letter c : Char} (h : (letter, c) ∈ shortEscapes) :
    letter ≠ 'u' ∧ escaped? letter = some c := by
  have hall : ∀ e ∈ shortEscapes, e.1 ≠ 'u' ∧ escaped? e.1 = some e.2 := by decide
  exact hall (letter, c) h

/-- A piece is read from the front of a string as it was written. -/
theorem StringPiece.Spelling.readString_append {piece : StringPiece} {cs : List Char}
    (h : piece.Spelling cs) (rest : List Char) :
    readString (cs ++ rest) =
      (readString rest).map fun (pieces, after) => (piece :: pieces, after) := by
  cases h with
  | plain hcontrol hquote hescape =>
    rw [List.singleton_append, readString_plain hquote hescape, if_neg (by omega)]
  | short h =>
    obtain ⟨hunit, hescaped⟩ := escaped?_of_mem h
    rw [List.cons_append, List.singleton_append, readString_escape hunit, hescaped]
    rfl
  | unit h =>
    obtain ⟨hw, hx, hy, hz⟩ := h
    simp only [List.cons_append, List.nil_append, readString, codeUnit?, Text.hexValue?,
      List.foldlM_cons, List.foldlM_nil, hw.hexDigit?_eq_some, hx.hexDigit?_eq_some,
      hy.hexDigit?_eq_some, hz.hexDigit?_eq_some]
    cases readString rest with
    | none => rfl
    | some read => simp

/-- What is written up to the closing quote is read, and no more. -/
theorem SpelledPieces.readString_append {pieces : List StringPiece} {body : List Char}
    (h : SpelledPieces pieces body) (rest : List Char) :
    readString (body ++ '"' :: rest) = some (pieces, rest) := by
  induction h with
  | nil => rfl
  | cons hpiece _ ih =>
    rw [List.append_assoc, hpiece.readString_append, ih]
    rfl

theorem SpelledPieces.lt_of_mem {pieces : List StringPiece} {body : List Char}
    (h : SpelledPieces pieces body) {n : Nat} (hn : .unit n ∈ pieces) : n < 0x10000 := by
  induction h with
  | nil => simp at hn
  | cons hpiece _ ih =>
    rcases List.mem_cons.mp hn with rfl | hn
    · cases hpiece with
      | unit h => exact h.lt
    · exact ih hn

theorem pieceChars_unit {n : Nat} (h : (isHighSurrogate n || isLowSurrogate n) = false)
    (pieces : List StringPiece) :
    pieceChars (.unit n :: pieces) = (pieceChars pieces).map (Char.ofNat n :: ·) := by
  obtain ⟨hhigh, hlow⟩ := Bool.or_eq_false_iff.mp h
  cases pieces with
  | nil => simp [pieceChars, h]
  | cons piece pieces =>
    cases piece with
    | char c => simp [pieceChars, h, Function.comp_def]
    | unit m => simp [pieceChars, hhigh, hlow]

theorem pieceChars_pair {high low : Nat} (hhigh : high < 0x400) (hlow : low < 0x400)
    (pieces : List StringPiece) :
    pieceChars (.unit (0xD800 + high) :: .unit (0xDC00 + low) :: pieces) =
      (pieceChars pieces).map (Char.ofNat (0x10000 + high * 0x400 + low) :: ·) := by
  have hfirst : isHighSurrogate (0xD800 + high) = true := by
    simp only [isHighSurrogate, Bool.and_eq_true, decide_eq_true_eq]
    omega
  have hsecond : isLowSurrogate (0xDC00 + low) = true := by
    simp only [isLowSurrogate, Bool.and_eq_true, decide_eq_true_eq]
    omega
  rw [pieceChars, if_pos hfirst, if_pos hsecond, Nat.add_sub_cancel_left, Nat.add_sub_cancel_left]

theorem isSurrogate_toNat (c : Char) :
    (isHighSurrogate c.toNat || isLowSurrogate c.toNat) = false := by
  have hvalid : c.toNat < 0xD800 ∨ 0xDFFF < c.toNat ∧ c.toNat < 0x110000 := c.valid
  simp only [isHighSurrogate, isLowSurrogate, Bool.or_eq_false_iff, Bool.and_eq_false_iff,
    decide_eq_false_iff_not]
  omega

theorem toNat_ofNat {n : Nat} (h : n.isValidChar) : (Char.ofNat n).toNat = n := by
  rw [Char.ofNat, dif_pos h]
  rfl

/-- Every code unit but half of a surrogate pair is the number of a character. -/
theorem toNat_ofNat_of_unit {n : Nat} (hn : n < 0x10000)
    (h : (isHighSurrogate n || isLowSurrogate n) = false) : (Char.ofNat n).toNat = n := by
  apply toNat_ofNat
  simp only [isHighSurrogate, isLowSurrogate, Bool.or_eq_false_iff, Bool.and_eq_false_iff,
    decide_eq_false_iff_not] at h
  unfold Nat.isValidChar
  omega

theorem StandsFor.ofNat {n : Nat} (hn : n < 0x10000)
    (hunit : (isHighSurrogate n || isLowSurrogate n) = false) {pieces : List StringPiece}
    {cs : List Char} (h : StandsFor pieces cs) :
    StandsFor (.unit n :: pieces) (Char.ofNat n :: cs) := by
  have hnumber := toNat_ofNat_of_unit hn hunit
  have hstands : StandsFor (.unit (Char.ofNat n).toNat :: pieces) (Char.ofNat n :: cs) :=
    .unit (by rwa [hnumber]) h
  rwa [hnumber] at hstands

theorem StandsFor.surrogates {n m : Nat} (hhigh : isHighSurrogate n = true)
    (hlow : isLowSurrogate m = true) {pieces : List StringPiece} {cs : List Char}
    (h : StandsFor pieces cs) :
    StandsFor (.unit n :: .unit m :: pieces)
      (Char.ofNat (0x10000 + (n - 0xD800) * 0x400 + (m - 0xDC00)) :: cs) := by
  simp only [isHighSurrogate, isLowSurrogate, Bool.and_eq_true, decide_eq_true_eq] at hhigh hlow
  have hvalid : (0x10000 + (n - 0xD800) * 0x400 + (m - 0xDC00)).isValidChar := by
    unfold Nat.isValidChar
    omega
  have hstands : StandsFor
      (.unit (0xD800 + (n - 0xD800)) :: .unit (0xDC00 + (m - 0xDC00)) :: pieces)
      (Char.ofNat (0x10000 + (n - 0xD800) * 0x400 + (m - 0xDC00)) :: cs) :=
    .pair (by omega) (by omega) (toNat_ofNat hvalid) h
  rwa [Nat.add_sub_cancel' (by omega), Nat.add_sub_cancel' (by omega)] at hstands

/-- Pieces are read as the characters that they stand for. -/
theorem StandsFor.pieceChars_eq_some {pieces : List StringPiece} {cs : List Char}
    (h : StandsFor pieces cs) : pieceChars pieces = some cs := by
  induction h with
  | nil => rfl
  | char c _ ih => rw [pieceChars, ih, Option.map_some]
  | @unit c hc _ _ _ ih =>
    rw [pieceChars_unit (isSurrogate_toNat c), ih, Option.map_some, Char.ofNat_toNat]
  | pair hhigh hlow hc _ ih =>
    rw [pieceChars_pair hhigh hlow, ih, Option.map_some, ← hc, Char.ofNat_toNat]

/-- Pieces that are read as characters stand for them. -/
theorem standsFor_of_pieceChars {pieces : List StringPiece} {cs : List Char}
    (hunits : ∀ n, .unit n ∈ pieces → n < 0x10000) (h : pieceChars pieces = some cs) :
    StandsFor pieces cs := by
  fun_induction pieceChars pieces generalizing cs with
  | case1 =>
    cases h
    exact .nil
  | case2 c rest ih =>
    obtain ⟨cs, hrest, rfl⟩ := Option.map_eq_some_iff.mp h
    exact .char c (ih (fun n hn => hunits n (List.mem_cons_of_mem _ hn)) hrest)
  | case3 | case5 | case8 | case9 => cases h
  | case4 n hunit =>
    cases h
    exact .ofNat (hunits n List.mem_cons_self) (by simpa using hunit) .nil
  | case6 n c rest hunit ih =>
    obtain ⟨cs, hrest, rfl⟩ := Option.map_eq_some_iff.mp h
    have hstands := ih (fun m hm => hunits m (by simp [hm])) hrest
    exact .ofNat (hunits n List.mem_cons_self) (by simpa using hunit) (.char c hstands)
  | case7 n m rest hhigh hlow ih =>
    obtain ⟨cs, hrest, rfl⟩ := Option.map_eq_some_iff.mp h
    exact .surrogates hhigh hlow (ih (fun k hk => hunits k (by simp [hk])) hrest)
  | case10 n m rest hhigh hlow ih =>
    obtain ⟨cs, hrest, rfl⟩ := Option.map_eq_some_iff.mp h
    have hstands := ih (fun k hk => hunits k (List.mem_cons_of_mem _ hk)) hrest
    exact .ofNat (hunits n List.mem_cons_self) (by simp [hhigh, hlow]) hstands

/-- Every character can be written, a control character by its number. -/
theorem exists_spelling (c : Char) :
    ∃ piece cs, StringPiece.Spelling piece cs ∧
      ∀ pieces rest, StandsFor pieces rest → StandsFor (piece :: pieces) (c :: rest) := by
  by_cases hcontrol : c.toNat < 0x20
  · have hdigits : UnitDigits (((0 * 16 + 0) * 16 + c.toNat / 16) * 16 + c.toNat % 16)
        ['0', '0', Nat.digitChar (c.toNat / 16), Nat.digitChar (c.toNat % 16)] :=
      .intro ⟨by omega, .inl rfl⟩ ⟨by omega, .inl rfl⟩ ⟨by omega, .inl rfl⟩ ⟨by omega, .inl rfl⟩
    have hnumber : ((0 * 16 + 0) * 16 + c.toNat / 16) * 16 + c.toNat % 16 = c.toNat := by omega
    rw [hnumber] at hdigits
    exact ⟨_, _, .unit hdigits, fun _ _ h => .unit (by omega) h⟩
  · by_cases hquote : c = '"'
    · have hshort : ('"', c) ∈ shortEscapes := by simp [shortEscapes, hquote]
      exact ⟨_, _, .short hshort, fun _ _ h => .char c h⟩
    · by_cases hescape : c = '\\'
      · have hshort : ('\\', c) ∈ shortEscapes := by simp [shortEscapes, hescape]
        exact ⟨_, _, .short hshort, fun _ _ h => .char c h⟩
      · exact ⟨_, _, .plain (by omega) hquote hescape, fun _ _ h => .char c h⟩

theorem exists_spelledPieces (cs : List Char) :
    ∃ pieces body, SpelledPieces pieces body ∧ StandsFor pieces cs := by
  induction cs with
  | nil => exact ⟨_, _, .nil, .nil⟩
  | cons c cs ih =>
    obtain ⟨pieces, body, hbody, hstands⟩ := ih
    obtain ⟨piece, text, hpiece, hchar⟩ := exists_spelling c
    exact ⟨_, _, .cons hpiece hbody, hchar pieces cs hstands⟩

end LogLayout.Json
