import LogLayout.Text.Utf8
import Mathlib.Tactic.SplitIfs

namespace LogLayout.Utf8

/-- The range of the second of three bytes, by the bits in the first. -/
def secondOfThree (bits : Nat) : Nat × Nat :=
  (if bits = 0 then 0xA0 else 0x80, if bits = 0xD then 0x9F else 0xBF)

/-- The range of the second of four bytes, by the bits in the first. -/
def secondOfFour (bits : Nat) : Nat × Nat :=
  (if bits = 0 then 0x90 else 0x80, if bits = 4 then 0x8F else 0xBF)

theorem secondOfThree_eq_continuation {bits : Nat} (hlow : bits ≠ 0) (hhigh : bits ≠ 0xD) :
    secondOfThree bits = continuation := by
  rw [secondOfThree, if_neg hlow, if_neg hhigh, continuation]

theorem secondOfFour_eq_continuation {bits : Nat} (hlow : bits ≠ 0) (hhigh : bits ≠ 4) :
    secondOfFour bits = continuation := by
  rw [secondOfFour, if_neg hlow, if_neg hhigh, continuation]

/-- What the first byte of a character asks for, by the number of bytes of the character. -/
theorem lead_cases {b bits : Nat} {ranges : List (Nat × Nat)} (h : lead b = some (ranges, bits)) :
    (ranges = [] ∧ b = bits ∧ bits < 0x80) ∨
    (ranges = [continuation] ∧ b = bits + 0xC0 ∧ 2 ≤ bits ∧ bits < 0x20) ∨
    (ranges = [secondOfThree bits, continuation] ∧ b = bits + 0xE0 ∧ bits < 0x10) ∨
    (ranges = [secondOfFour bits, continuation, continuation] ∧ b = bits + 0xF0 ∧ bits < 5) := by
  unfold lead at h
  split_ifs at h <;> obtain ⟨rfl, rfl⟩ := Prod.mk.inj (Option.some.inj h)
  · exact .inl ⟨rfl, rfl, by omega⟩
  · exact .inr (.inl ⟨rfl, by omega, by omega, by omega⟩)
  · exact .inr (.inr (.inl ⟨rfl, by omega, by omega⟩))
  · exact .inr (.inr (.inl ⟨rfl, by omega, by omega⟩))
  · rw [secondOfThree_eq_continuation (by omega) (by omega)]
    exact .inr (.inr (.inl ⟨rfl, by omega, by omega⟩))
  · exact .inr (.inr (.inr ⟨rfl, by omega, by omega⟩))
  · rw [secondOfFour_eq_continuation (by omega) (by omega)]
    exact .inr (.inr (.inr ⟨rfl, by omega, by omega⟩))
  · exact .inr (.inr (.inr ⟨rfl, by omega, by omega⟩))

theorem lead_one {bits : Nat} (h : bits < 0x80) : lead bits = some ([], bits) :=
  if_pos h

theorem lead_two {bits : Nat} (hlow : 2 ≤ bits) (hhigh : bits < 0x20) :
    lead (bits + 0xC0) = some ([continuation], bits) := by
  rw [lead, if_neg (by omega), if_pos (by omega), Nat.add_sub_cancel]

theorem lead_three : ∀ bits < 0x10,
    lead (bits + 0xE0) = some ([secondOfThree bits, continuation], bits) := by
  decide

theorem lead_four : ∀ bits < 5,
    lead (bits + 0xF0) = some ([secondOfFour bits, continuation, continuation], bits) := by
  decide

/-- Reads the bytes that a first byte asks for, and gives the number that they make with the bits
of the first. -/
def follow : List (Nat × Nat) → Nat → List UInt8 → Option (Nat × List UInt8)
  | [], bits, bytes => some (bits, bytes)
  | _ :: _, _, [] => none
  | (low, high) :: ranges, bits, byte :: rest =>
    if low ≤ byte.toNat ∧ byte.toNat ≤ high then
      follow ranges (bits * 0x40 + (byte.toNat - 0x80)) rest
    else none

theorem follow_nil_eq_some_iff {bits n : Nat} {bytes after : List UInt8} :
    follow [] bits bytes = some (n, after) ↔ bits = n ∧ bytes = after := by
  simp [follow]

theorem follow_cons_eq_some_iff {range : Nat × Nat} {ranges : List (Nat × Nat)} {bits n : Nat}
    {bytes after : List UInt8} :
    follow (range :: ranges) bits bytes = some (n, after) ↔
      ∃ byte rest, bytes = byte :: rest ∧ range.1 ≤ byte.toNat ∧ byte.toNat ≤ range.2 ∧
        follow ranges (bits * 0x40 + (byte.toNat - 0x80)) rest = some (n, after) := by
  cases bytes with
  | nil => simp [follow]
  | cons byte rest => simp [follow, and_assoc]

/-- The first character of bytes, and the bytes behind it. -/
def char? : List UInt8 → Option (Char × List UInt8)
  | [] => none
  | byte :: rest =>
    (lead byte.toNat).bind fun (ranges, bits) =>
      (follow ranges bits rest).map fun (n, after) => (Char.ofNat n, after)

/-- The machine reads the bytes that it waits for and goes on behind them. -/
theorem decodeFrom_of_follow {ranges : List (Nat × Nat)} {index bits taken n : Nat}
    {bytes after : List UInt8} (hranges : ranges ≠ [])
    (h : follow ranges bits bytes = some (n, after)) :
    decodeFrom index { ranges, bits, taken } bytes =
      (decodeFrom (index + ranges.length) {} after).map (Char.ofNat n :: ·) := by
  induction ranges generalizing index bits taken bytes with
  | nil => exact (hranges rfl).elim
  | cons range ranges ih =>
    obtain ⟨byte, rest, rfl, hlow, hhigh, hrest⟩ := follow_cons_eq_some_iff.mp h
    rw [decodeFrom]
    simp only [if_pos (And.intro hlow hhigh)]
    cases ranges with
    | nil =>
      obtain ⟨rfl, rfl⟩ := follow_nil_eq_some_iff.mp hrest
      rfl
    | cons next ranges =>
      rw [ih (by simp) hrest]
      simp only [List.length_cons]
      congr 2
      omega

theorem decodeFrom_of_follow_eq_none {ranges : List (Nat × Nat)} {index bits taken : Nat}
    {bytes : List UInt8} (h : follow ranges bits bytes = none) :
    ∃ fault, decodeFrom index { ranges, bits, taken } bytes = .error fault := by
  induction ranges generalizing index bits taken bytes with
  | nil => simp [follow] at h
  | cons range ranges ih =>
    cases bytes with
    | nil => exact ⟨_, rfl⟩
    | cons byte rest =>
      rw [decodeFrom]
      by_cases hbyte : range.1 ≤ byte.toNat ∧ byte.toNat ≤ range.2
      · simp only [follow, if_pos hbyte] at h
        simp only [if_pos hbyte]
        cases ranges with
        | nil => simp [follow] at h
        | cons next ranges => exact ih h
      · simp only [if_neg hbyte]
        exact ⟨_, rfl⟩

theorem decodeFrom_of_char? (index : Nat) {bytes after : List UInt8} {c : Char}
    (h : char? bytes = some (c, after)) :
    ∃ next, decodeFrom index {} bytes = (decodeFrom next {} after).map (c :: ·) := by
  cases bytes with
  | nil => simp [char?] at h
  | cons byte rest =>
    obtain ⟨⟨ranges, bits⟩, hlead, hmap⟩ := Option.bind_eq_some_iff.mp h
    obtain ⟨⟨n, after⟩, hfollow, hpair⟩ := Option.map_eq_some_iff.mp hmap
    cases hpair
    rw [decodeFrom]
    simp only [hlead]
    cases ranges with
    | nil =>
      obtain ⟨rfl, rfl⟩ := follow_nil_eq_some_iff.mp hfollow
      exact ⟨index + 1, rfl⟩
    | cons range ranges => exact ⟨_, decodeFrom_of_follow (by simp) hfollow⟩

theorem decodeFrom_of_char?_eq_none (index : Nat) {byte : UInt8} {rest : List UInt8}
    (h : char? (byte :: rest) = none) :
    ∃ fault, decodeFrom index {} (byte :: rest) = .error fault := by
  rw [decodeFrom]
  cases hlead : lead byte.toNat with
  | none => exact ⟨_, rfl⟩
  | some first =>
    obtain ⟨ranges, bits⟩ := first
    have hfollow : follow ranges bits rest = none := by simpa [char?, hlead] using h
    cases ranges with
    | nil => simp [follow] at hfollow
    | cons range ranges => exact decodeFrom_of_follow_eq_none hfollow

theorem toNat_byte {n : Nat} (h : n < 0x100) : (UInt8.ofNat n).toNat = n :=
  UInt8.toNat_ofNat_of_lt' h

theorem eq_byte {byte : UInt8} {n : Nat} (h : byte.toNat = n) : byte = UInt8.ofNat n := by
  rw [← h, UInt8.ofNat_toNat]

theorem encodeChar_ofNat {n : Nat} (h : n.isValidChar) :
    String.utf8EncodeChar (Char.ofNat n) =
      if n ≤ 0x7F then [.ofNat n]
      else if n ≤ 0x7FF then [.ofNat (n / 0x40 % 0x20 + 0xC0), .ofNat (n % 0x40 + 0x80)]
      else if n ≤ 0xFFFF then
        [.ofNat (n / 0x1000 % 0x10 + 0xE0), .ofNat (n / 0x40 % 0x40 + 0x80),
          .ofNat (n % 0x40 + 0x80)]
      else
        [.ofNat (n / 0x40000 % 0x8 + 0xF0), .ofNat (n / 0x1000 % 0x40 + 0x80),
          .ofNat (n / 0x40 % 0x40 + 0x80), .ofNat (n % 0x40 + 0x80)] := by
  have hval : (Char.ofNat n).val.toNat = n := by
    rw [Char.ofNat, dif_pos h]
    rfl
  rw [String.utf8EncodeChar]
  simp only [hval]

theorem char?_of_follow (bits : Nat) (ranges : List (Nat × Nat)) {byte : UInt8} {n : Nat}
    {rest after : List UInt8} (hlead : lead byte.toNat = some (ranges, bits))
    (hfollow : follow ranges bits rest = some (n, after)) :
    char? (byte :: rest) = some (Char.ofNat n, after) := by
  simp [char?, hlead, hfollow]

theorem follow_byte {range : Nat × Nat} {ranges : List (Nat × Nat)} {bits x n : Nat}
    {rest after : List UInt8} (hx : x < 0x40) (hlow : range.1 ≤ x + 0x80)
    (hhigh : x + 0x80 ≤ range.2) (h : follow ranges (bits * 0x40 + x) rest = some (n, after)) :
    follow (range :: ranges) bits (.ofNat (x + 0x80) :: rest) = some (n, after) := by
  have hbyte : (UInt8.ofNat (x + 0x80)).toNat = x + 0x80 := toNat_byte (by omega)
  refine follow_cons_eq_some_iff.mpr ⟨_, rest, rfl, ?_, ?_, ?_⟩
  · rwa [hbyte]
  · rwa [hbyte]
  · rwa [hbyte, Nat.add_sub_cancel]

theorem continuation_range {x : Nat} (h : x < 0x40) :
    continuation.1 ≤ x + 0x80 ∧ x + 0x80 ≤ continuation.2 := by
  simp only [continuation]
  omega

section
variable {n : Nat} (after : List UInt8)

theorem char?_two (hlow : 0x7F < n) (hhigh : n ≤ 0x7FF) :
    char? (.ofNat (n / 0x40 % 0x20 + 0xC0) :: .ofNat (n % 0x40 + 0x80) :: after) =
      some (Char.ofNat n, after) := by
  refine char?_of_follow (n / 0x40 % 0x20) [continuation] ?_ ?_
  · rw [toNat_byte (by omega), lead_two (by omega) (by omega)]
  · have h₁ := continuation_range (x := n % 0x40) (by omega)
    apply follow_byte (by omega) h₁.1 h₁.2
    exact follow_nil_eq_some_iff.mpr ⟨by omega, rfl⟩

theorem char?_three (hlow : 0x7FF < n) (hhigh : n ≤ 0xFFFF) (hvalid : n.isValidChar) :
    char? (.ofNat (n / 0x1000 % 0x10 + 0xE0) :: .ofNat (n / 0x40 % 0x40 + 0x80) ::
      .ofNat (n % 0x40 + 0x80) :: after) = some (Char.ofNat n, after) := by
  have hbound : n < 0xD800 ∨ 0xDFFF < n ∧ n < 0x110000 := hvalid
  refine char?_of_follow (n / 0x1000 % 0x10)
    [secondOfThree (n / 0x1000 % 0x10), continuation] ?_ ?_
  · rw [toNat_byte (by omega), lead_three _ (by omega)]
  · have h₁ : (secondOfThree (n / 0x1000 % 0x10)).1 ≤ n / 0x40 % 0x40 + 0x80 ∧
        n / 0x40 % 0x40 + 0x80 ≤ (secondOfThree (n / 0x1000 % 0x10)).2 := by
      simp only [secondOfThree]
      split <;> split <;> omega
    have h₂ := continuation_range (x := n % 0x40) (by omega)
    apply follow_byte (by omega) h₁.1 h₁.2
    apply follow_byte (by omega) h₂.1 h₂.2
    exact follow_nil_eq_some_iff.mpr ⟨by omega, rfl⟩

theorem char?_four (hlow : 0xFFFF < n) (hvalid : n.isValidChar) :
    char? (.ofNat (n / 0x40000 % 0x8 + 0xF0) :: .ofNat (n / 0x1000 % 0x40 + 0x80) ::
      .ofNat (n / 0x40 % 0x40 + 0x80) :: .ofNat (n % 0x40 + 0x80) :: after) =
        some (Char.ofNat n, after) := by
  have hbound : n < 0xD800 ∨ 0xDFFF < n ∧ n < 0x110000 := hvalid
  refine char?_of_follow (n / 0x40000 % 0x8)
    [secondOfFour (n / 0x40000 % 0x8), continuation, continuation] ?_ ?_
  · rw [toNat_byte (by omega), lead_four _ (by omega)]
  · have h₁ : (secondOfFour (n / 0x40000 % 0x8)).1 ≤ n / 0x1000 % 0x40 + 0x80 ∧
        n / 0x1000 % 0x40 + 0x80 ≤ (secondOfFour (n / 0x40000 % 0x8)).2 := by
      simp only [secondOfFour]
      split <;> split <;> omega
    have h₂ := continuation_range (x := n / 0x40 % 0x40) (by omega)
    have h₃ := continuation_range (x := n % 0x40) (by omega)
    apply follow_byte (by omega) h₁.1 h₁.2
    apply follow_byte (by omega) h₂.1 h₂.2
    apply follow_byte (by omega) h₃.1 h₃.2
    exact follow_nil_eq_some_iff.mpr ⟨by omega, rfl⟩

end

/-- The bytes of a character are read as that character, whatever stands behind them. -/
theorem char?_encode_append (c : Char) (after : List UInt8) :
    char? (String.utf8EncodeChar c ++ after) = some (c, after) := by
  obtain ⟨n, hvalid, rfl⟩ : ∃ n : Nat, n.isValidChar ∧ Char.ofNat n = c :=
    ⟨c.toNat, c.valid, c.ofNat_toNat⟩
  rw [encodeChar_ofNat hvalid]
  split
  · refine char?_of_follow n [] ?_ rfl
    rw [toNat_byte (by omega), lead_one (by omega)]
  split
  · exact char?_two after (by omega) (by omega)
  split
  · exact char?_three after (by omega) (by omega) hvalid
  · exact char?_four after (by omega) hvalid

section
variable {byte : UInt8} {bits n : Nat} {rest after : List UInt8}

theorem encode_of_follow_two (hbyte : byte.toNat = bits + 0xC0) (hlow : 2 ≤ bits)
    (hhigh : bits < 0x20) (h : follow [continuation] bits rest = some (n, after)) :
    String.utf8EncodeChar (Char.ofNat n) ++ after = byte :: rest := by
  obtain ⟨b₁, rest, rfl, hlow₁, hhigh₁, hfollow⟩ := follow_cons_eq_some_iff.mp h
  obtain ⟨hn, rfl⟩ := follow_nil_eq_some_iff.mp hfollow
  simp only [continuation] at hlow₁ hhigh₁
  have hvalid : n.isValidChar := .inl (by omega)
  rw [encodeChar_ofNat hvalid, if_neg (by omega), if_pos (by omega),
    eq_byte (show byte.toNat = n / 0x40 % 0x20 + 0xC0 by omega),
    eq_byte (show b₁.toNat = n % 0x40 + 0x80 by omega)]
  rfl

theorem encode_of_follow_three (hbyte : byte.toNat = bits + 0xE0) (hbits : bits < 0x10)
    (h : follow [secondOfThree bits, continuation] bits rest = some (n, after)) :
    String.utf8EncodeChar (Char.ofNat n) ++ after = byte :: rest := by
  obtain ⟨b₁, rest, rfl, hlow₁, hhigh₁, hfollow⟩ := follow_cons_eq_some_iff.mp h
  obtain ⟨b₂, rest, rfl, hlow₂, hhigh₂, hfollow⟩ := follow_cons_eq_some_iff.mp hfollow
  obtain ⟨hn, rfl⟩ := follow_nil_eq_some_iff.mp hfollow
  simp only [continuation] at hlow₂ hhigh₂
  -- The range of the second byte leaves out longer forms than needed, and surrogates.
  have hsecond : 0x80 ≤ b₁.toNat ∧ b₁.toNat ≤ 0xBF ∧ 0x800 ≤ n ∧ n ≤ 0xFFFF ∧ n.isValidChar := by
    simp only [secondOfThree, Nat.isValidChar] at hlow₁ hhigh₁ ⊢
    split at hlow₁ <;> split at hhigh₁ <;> omega
  obtain ⟨hlow₁, hhigh₁, hlow, hhigh, hvalid⟩ := hsecond
  rw [encodeChar_ofNat hvalid, if_neg (by omega), if_neg (by omega), if_pos (by omega),
    eq_byte (show byte.toNat = n / 0x1000 % 0x10 + 0xE0 by omega),
    eq_byte (show b₁.toNat = n / 0x40 % 0x40 + 0x80 by omega),
    eq_byte (show b₂.toNat = n % 0x40 + 0x80 by omega)]
  rfl

theorem encode_of_follow_four (hbyte : byte.toNat = bits + 0xF0) (hbits : bits < 5)
    (h : follow [secondOfFour bits, continuation, continuation] bits rest = some (n, after)) :
    String.utf8EncodeChar (Char.ofNat n) ++ after = byte :: rest := by
  obtain ⟨b₁, rest, rfl, hlow₁, hhigh₁, hfollow⟩ := follow_cons_eq_some_iff.mp h
  obtain ⟨b₂, rest, rfl, hlow₂, hhigh₂, hfollow⟩ := follow_cons_eq_some_iff.mp hfollow
  obtain ⟨b₃, rest, rfl, hlow₃, hhigh₃, hfollow⟩ := follow_cons_eq_some_iff.mp hfollow
  obtain ⟨hn, rfl⟩ := follow_nil_eq_some_iff.mp hfollow
  simp only [continuation] at hlow₂ hhigh₂ hlow₃ hhigh₃
  -- Here it also leaves out what is beyond the last character.
  have hsecond : 0x80 ≤ b₁.toNat ∧ b₁.toNat ≤ 0xBF ∧ 0x10000 ≤ n ∧ n.isValidChar := by
    simp only [secondOfFour, Nat.isValidChar] at hlow₁ hhigh₁ ⊢
    split at hlow₁ <;> split at hhigh₁ <;> omega
  obtain ⟨hlow₁, hhigh₁, hlow, hvalid⟩ := hsecond
  rw [encodeChar_ofNat hvalid, if_neg (by omega), if_neg (by omega), if_neg (by omega),
    eq_byte (show byte.toNat = n / 0x40000 % 0x8 + 0xF0 by omega),
    eq_byte (show b₁.toNat = n / 0x1000 % 0x40 + 0x80 by omega),
    eq_byte (show b₂.toNat = n / 0x40 % 0x40 + 0x80 by omega),
    eq_byte (show b₃.toNat = n % 0x40 + 0x80 by omega)]
  rfl

end

/-- Bytes are read as a character only when they are its bytes. -/
theorem encode_of_char? {bytes after : List UInt8} {c : Char} (h : char? bytes = some (c, after)) :
    String.utf8EncodeChar c ++ after = bytes := by
  cases bytes with
  | nil => simp [char?] at h
  | cons byte rest =>
    obtain ⟨⟨ranges, bits⟩, hlead, hmap⟩ := Option.bind_eq_some_iff.mp h
    obtain ⟨⟨n, after⟩, hfollow, hpair⟩ := Option.map_eq_some_iff.mp hmap
    cases hpair
    obtain ⟨rfl, hbyte, hbits⟩ | ⟨rfl, hbyte, hlow, hhigh⟩ | ⟨rfl, hbyte, hbits⟩ |
      ⟨rfl, hbyte, hbits⟩ := lead_cases hlead
    · obtain ⟨rfl, rfl⟩ := follow_nil_eq_some_iff.mp hfollow
      have hvalid : bits.isValidChar := .inl (by omega)
      rw [encodeChar_ofNat hvalid, if_pos (by omega), eq_byte hbyte]
      rfl
    · exact encode_of_follow_two hbyte hlow hhigh hfollow
    · exact encode_of_follow_three hbyte hbits hfollow
    · exact encode_of_follow_four hbyte hbits hfollow

theorem decodeFrom_encode (cs : List Char) (index : Nat) :
    decodeFrom index {} (cs.flatMap String.utf8EncodeChar) = .ok cs := by
  induction cs generalizing index with
  | nil => rfl
  | cons c cs ih =>
    obtain ⟨next, hread⟩ := decodeFrom_of_char? index
      (char?_encode_append c (cs.flatMap String.utf8EncodeChar))
    rw [List.flatMap_cons, hread, ih]
    rfl

theorem encode_of_decodeFrom {bytes : List UInt8} {cs : List Char} {index : Nat}
    (h : decodeFrom index {} bytes = .ok cs) : cs.flatMap String.utf8EncodeChar = bytes := by
  -- One character at a time, which is at least one byte.
  induction hlength : bytes.length using Nat.strongRecOn generalizing bytes cs index with
  | ind length ih =>
    cases bytes with
    | nil =>
      cases h
      rfl
    | cons byte rest =>
      cases hchar : char? (byte :: rest) with
      | none =>
        obtain ⟨fault, hfault⟩ := decodeFrom_of_char?_eq_none index hchar
        rw [hfault] at h
        cases h
      | some read =>
        obtain ⟨c, after⟩ := read
        obtain ⟨next, hread⟩ := decodeFrom_of_char? index hchar
        have hbytes := encode_of_char? hchar
        have hshorter : after.length < length := by
          have hpos := List.length_pos_iff.mpr (@String.utf8EncodeChar_ne_nil c)
          have hsum := congrArg List.length hbytes
          rw [List.length_append] at hsum
          omega
        rw [hread] at h
        cases hafter : decodeFrom next {} after with
        | error fault =>
          rw [hafter] at h
          cases h
        | ok cs' =>
          rw [hafter] at h
          cases h
          rw [List.flatMap_cons, ih after.length hshorter hafter rfl, hbytes]

/-- Bytes decode to a text exactly when they are that text in UTF-8. -/
theorem decode_eq_ok_iff {bytes : List UInt8} {s : String} :
    decode bytes = .ok s ↔ encode s = bytes := by
  constructor
  · intro h
    unfold decode at h
    cases hread : decodeFrom 0 {} bytes with
    | error fault =>
      rw [hread] at h
      cases h
    | ok cs =>
      rw [hread] at h
      cases h
      rw [encode, String.toList_ofList, encode_of_decodeFrom hread]
  · rintro rfl
    rw [decode, encode, decodeFrom_encode]
    exact congrArg Except.ok String.ofList_toList

theorem encode_injective {s t : String} (h : encode s = encode t) : s = t := by
  have hs := decode_eq_ok_iff.mpr h
  rw [decode_eq_ok_iff.mpr rfl] at hs
  exact (Except.ok.inj hs).symm

@[simp] theorem encode_empty : encode "" = [] := rfl

theorem encode_append (s t : String) : encode (s ++ t) = encode s ++ encode t := by
  rw [encode, String.toList_append, List.flatMap_append]
  rfl

theorem encode_push (s : String) (c : Char) :
    encode (s.push c) = encode s ++ String.utf8EncodeChar c := by
  simp [encode]

theorem encodeChar_of_lt {c : Char} (h : c.toNat < 0x80) :
    String.utf8EncodeChar c = [UInt8.ofNat c.toNat] := by
  have hone : c.val.toNat ≤ 0x7F := by
    change c.toNat ≤ 0x7F
    omega
  rw [String.utf8EncodeChar]
  simp only [if_pos hone]
  rfl

/-- A character of several bytes has none below 0x80. -/
theorem le_of_mem_encodeChar {c : Char} {byte : UInt8} (hc : 0x80 ≤ c.toNat)
    (h : byte ∈ String.utf8EncodeChar c) : 0x80 ≤ byte.toNat := by
  have hmore : ¬ c.val.toNat ≤ 0x7F := by
    change ¬ c.toNat ≤ 0x7F
    omega
  rw [String.utf8EncodeChar] at h
  simp only [if_neg hmore] at h
  split at h
  · simp only [List.mem_cons, List.not_mem_nil, or_false] at h
    rcases h with rfl | rfl <;> rw [toNat_byte (by omega)] <;> omega
  split at h
  · simp only [List.mem_cons, List.not_mem_nil, or_false] at h
    rcases h with rfl | rfl | rfl <;> rw [toNat_byte (by omega)] <;> omega
  · simp only [List.mem_cons, List.not_mem_nil, or_false] at h
    rcases h with rfl | rfl | rfl | rfl <;> rw [toNat_byte (by omega)] <;> omega

/-- A byte below 0x80 in a character is all of it. -/
theorem mem_encodeChar_iff {byte : UInt8} (hbyte : byte.toNat < 0x80) (c : Char) :
    byte ∈ String.utf8EncodeChar c ↔ c.toNat = byte.toNat := by
  by_cases hc : c.toNat < 0x80
  · rw [encodeChar_of_lt hc, List.mem_singleton, ← UInt8.toNat_inj, toNat_byte (by omega), eq_comm]
  · constructor
    · intro h
      have hlarge := le_of_mem_encodeChar (Nat.le_of_not_lt hc) h
      omega
    · intro h
      omega

theorem getLast?_encodeChar_eq_some_iff {byte : UInt8} (hbyte : byte.toNat < 0x80) (c : Char) :
    (String.utf8EncodeChar c).getLast? = some byte ↔ c.toNat = byte.toNat := by
  rw [← mem_encodeChar_iff hbyte]
  constructor
  · exact List.mem_of_getLast?
  · intro h
    have hc : c.toNat < 0x80 := by
      rw [(mem_encodeChar_iff hbyte c).mp h]
      exact hbyte
    rw [encodeChar_of_lt hc] at h ⊢
    rw [List.mem_singleton.mp h, List.getLast?_singleton]

theorem getLast?_encode_push_eq_some_iff {byte : UInt8} (hbyte : byte.toNat < 0x80) (s : String)
    (c : Char) : (encode (s.push c)).getLast? = some byte ↔ c.toNat = byte.toNat := by
  rw [encode_push, List.getLast?_append, ← getLast?_encodeChar_eq_some_iff hbyte]
  cases hlast : (String.utf8EncodeChar c).getLast? with
  | none => exact (String.utf8EncodeChar_ne_nil (List.getLast?_eq_none_iff.mp hlast)).elim
  | some last => rfl

end LogLayout.Utf8
