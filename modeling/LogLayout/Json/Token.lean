import LogLayout.Json
import LogLayout.Text.Numeral

namespace LogLayout.Json

/-- A token of JSON text. -/
inductive Token where
  | openArray
  | closeArray
  | openObject
  | closeObject
  | colon
  | comma
  /-- A value that is one token by itself. -/
  | scalar (v : Json)

/-- The white space of JSON. -/
def isSpace (c : Char) : Bool :=
  c = ' ' || c = '\t' || c = '\n' || c = '\r'

/-- What one piece of a string stands for: a character, or a UTF-16 code unit that is given by
its number. -/
inductive StringPiece where
  | char (c : Char)
  | unit (n : Nat)
  deriving DecidableEq, Repr

/-- The number of four hexadecimal digits. -/
def codeUnit? (a b c d : Char) : Option Nat := Text.hexValue? [a, b, c, d]

/-- The character that a one-letter escape stands for. -/
def escaped? (c : Char) : Option Char :=
  if c = '"' then some '"'
  else if c = '\\' then some '\\'
  else if c = '/' then some '/'
  else if c = 'b' then some '\x08'
  else if c = 'f' then some '\x0c'
  else if c = 'n' then some '\n'
  else if c = 'r' then some '\r'
  else if c = 't' then some '\t'
  else none

/-- Reads a string whose opening quote was read, up to its closing quote. Control characters
have to be escaped. -/
def readString : List Char → Option (List StringPiece × List Char)
  | [] => none
  | '"' :: rest => some ([], rest)
  | '\\' :: 'u' :: a :: b :: c :: d :: rest => do
    let n ← codeUnit? a b c d
    let (pieces, rest) ← readString rest
    return (.unit n :: pieces, rest)
  | '\\' :: e :: rest => do
    let c ← escaped? e
    let (pieces, rest) ← readString rest
    return (.char c :: pieces, rest)
  | c :: rest =>
    if c.toNat < 0x20 ∨ c = '\\' then none
    else do
      let (pieces, rest) ← readString rest
      return (.char c :: pieces, rest)

/-- Whether a code unit is the first half of a surrogate pair. -/
def isHighSurrogate (n : Nat) : Bool := 0xD800 ≤ n && n < 0xDC00

/-- Whether a code unit is the second half of a surrogate pair. -/
def isLowSurrogate (n : Nat) : Bool := 0xDC00 ≤ n && n < 0xE000

/-- The characters of string pieces. Two units that make a surrogate pair are one character,
and half of a pair is none. -/
def pieceChars : List StringPiece → Option (List Char)
  | [] => some []
  | .char c :: rest => (pieceChars rest).map (c :: ·)
  | [.unit n] => if isHighSurrogate n || isLowSurrogate n then none else some [Char.ofNat n]
  | .unit n :: .char c :: rest =>
    if isHighSurrogate n || isLowSurrogate n then none
    else (pieceChars rest).map (fun cs => Char.ofNat n :: c :: cs)
  | .unit n :: .unit m :: rest =>
    if isHighSurrogate n then
      if isLowSurrogate m then
        (pieceChars rest).map (Char.ofNat (0x10000 + (n - 0xD800) * 0x400 + (m - 0xDC00)) :: ·)
      else none
    else if isLowSurrogate n then none
    else (pieceChars (.unit m :: rest)).map (Char.ofNat n :: ·)

/-- A run of one or more digits, and what follows it. -/
def readDigits (cs : List Char) : Option (List Char × List Char) :=
  let digits := cs.takeWhile Char.isDigit
  if digits.isEmpty then none else some (digits, cs.dropWhile Char.isDigit)

/-- The whole part of a number: no zero stands in front of other digits. -/
def readWhole (cs : List Char) : Option (List Char × List Char) :=
  match cs with
  | '0' :: rest => some (['0'], rest)
  | _ => readDigits cs

/-- The fraction of a number, if it has one. -/
def readFraction (cs : List Char) : Option (List Char × List Char) :=
  match cs with
  | '.' :: rest => (readDigits rest).map fun (digits, rest) => ('.' :: digits, rest)
  | _ => some ([], cs)

/-- The exponent of a number, if it has one. -/
def readExponent (cs : List Char) : Option (List Char × List Char) :=
  match cs with
  | c :: rest =>
    if c = 'e' ∨ c = 'E' then
      match rest with
      | s :: digits =>
        if s = '+' ∨ s = '-' then
          (readDigits digits).map fun (digits, rest) => (c :: s :: digits, rest)
        else (readDigits rest).map fun (digits, rest) => (c :: digits, rest)
      | [] => none
    else some ([], c :: rest)
  | [] => some ([], [])

/-- Reads a number after its sign. -/
def readMagnitude (cs : List Char) : Option (List Char × List Char) := do
  let (whole, rest) ← readWhole cs
  let (fraction, rest) ← readFraction rest
  let (exponent, rest) ← readExponent rest
  return (whole ++ fraction ++ exponent, rest)

/-- Takes a word off the start of text. -/
def readWord (word cs : List Char) : Option (List Char) :=
  if word.isPrefixOf cs then some (cs.drop word.length) else none

/-- Reads the token that starts with `c`. -/
def readToken (c : Char) (cs : List Char) : Option (Token × List Char) :=
  match c with
  | '[' => some (.openArray, cs)
  | ']' => some (.closeArray, cs)
  | '{' => some (.openObject, cs)
  | '}' => some (.closeObject, cs)
  | ':' => some (.colon, cs)
  | ',' => some (.comma, cs)
  | '"' => (readString cs).map fun (pieces, rest) =>
      (.scalar (.string ((pieceChars pieces).map String.ofList)), rest)
  | 'n' => (readWord ['u', 'l', 'l'] cs).map fun rest => (.scalar .null, rest)
  | 't' => (readWord ['r', 'u', 'e'] cs).map fun rest => (.scalar (.bool true), rest)
  | 'f' => (readWord ['a', 'l', 's', 'e'] cs).map fun rest => (.scalar (.bool false), rest)
  | '-' => (readMagnitude cs).map fun (digits, rest) =>
      (.scalar (.number (String.ofList ('-' :: digits))), rest)
  | _ =>
    if c.isDigit then
      (readMagnitude (c :: cs)).map fun (digits, rest) =>
        (.scalar (.number (String.ofList digits)), rest)
    else none

theorem length_of_readString {cs rest : List Char} {pieces : List StringPiece}
    (h : readString cs = some (pieces, rest)) : rest.length < cs.length := by
  fun_induction readString cs generalizing pieces rest with
  | case1 => simp at h
  | case2 tail =>
    simp only [Option.some.injEq, Prod.mk.injEq] at h
    simp [h.2]
  | case3 a b c d tail ih =>
    simp only [Option.bind_eq_bind, Option.bind_eq_some_iff] at h
    obtain ⟨n, _, ⟨later, after⟩, hread, h⟩ := h
    simp only [Option.pure_def, Option.some.injEq, Prod.mk.injEq] at h
    have := ih hread
    simp only [← h.2, List.length_cons]
    omega
  | case4 e tail _ ih =>
    simp only [Option.bind_eq_bind, Option.bind_eq_some_iff] at h
    obtain ⟨c, _, ⟨later, after⟩, hread, h⟩ := h
    simp only [Option.pure_def, Option.some.injEq, Prod.mk.injEq] at h
    have := ih hread
    simp only [← h.2, List.length_cons]
    omega
  | case5 => simp at h
  | case6 c tail _ _ _ _ ih =>
    simp only [Option.bind_eq_bind, Option.bind_eq_some_iff] at h
    obtain ⟨⟨later, after⟩, hread, h⟩ := h
    simp only [Option.pure_def, Option.some.injEq, Prod.mk.injEq] at h
    have := ih hread
    simp only [← h.2, List.length_cons]
    omega

theorem length_of_readDigits {cs digits rest : List Char}
    (h : readDigits cs = some (digits, rest)) : rest.length < cs.length := by
  unfold readDigits at h
  simp only at h
  split at h
  · simp at h
  · rename_i hne
    simp only [Option.some.injEq, Prod.mk.injEq] at h
    have hsplit := congrArg List.length
      (List.takeWhile_append_dropWhile (p := Char.isDigit) (l := cs))
    have hpos : 0 < (cs.takeWhile Char.isDigit).length :=
      List.length_pos_iff.mpr (by simpa using hne)
    rw [List.length_append, h.2] at hsplit
    omega

theorem length_of_readWhole {cs whole rest : List Char}
    (h : readWhole cs = some (whole, rest)) : rest.length < cs.length := by
  unfold readWhole at h
  split at h
  · simp only [Option.some.injEq, Prod.mk.injEq] at h
    simp [h.2]
  · exact length_of_readDigits h

theorem length_of_readFraction {cs fraction rest : List Char}
    (h : readFraction cs = some (fraction, rest)) : rest.length ≤ cs.length := by
  unfold readFraction at h
  split at h
  · obtain ⟨⟨digits, after⟩, hdigits, hpair⟩ := Option.map_eq_some_iff.mp h
    have := length_of_readDigits hdigits
    simp only [Prod.mk.injEq] at hpair
    rw [← hpair.2, List.length_cons]
    omega
  · simp only [Option.some.injEq, Prod.mk.injEq] at h
    simp [h.2]

theorem length_of_readExponent {cs exponent rest : List Char}
    (h : readExponent cs = some (exponent, rest)) : rest.length ≤ cs.length := by
  unfold readExponent at h
  split at h
  · split at h
    · split at h
      · split at h
        all_goals
          obtain ⟨⟨digits, after⟩, hdigits, hpair⟩ := Option.map_eq_some_iff.mp h
          have := length_of_readDigits hdigits
          simp only [Prod.mk.injEq] at hpair
          rw [← hpair.2]
          simp only [List.length_cons] at *
          omega
      · simp at h
    · simp only [Option.some.injEq, Prod.mk.injEq] at h
      simp [← h.2]
  · simp only [Option.some.injEq, Prod.mk.injEq] at h
    simp [← h.2]

theorem length_of_readMagnitude {cs digits rest : List Char}
    (h : readMagnitude cs = some (digits, rest)) : rest.length < cs.length := by
  simp only [readMagnitude, Option.bind_eq_bind, Option.bind_eq_some_iff] at h
  obtain ⟨⟨whole, r₁⟩, hwhole, ⟨fraction, r₂⟩, hfraction, ⟨exponent, r₃⟩, hexponent, h⟩ := h
  simp only [Option.pure_def, Option.some.injEq, Prod.mk.injEq] at h
  have h₁ := length_of_readWhole hwhole
  have h₂ := length_of_readFraction hfraction
  have h₃ := length_of_readExponent hexponent
  simp only at h₂ h₃
  rw [← h.2]
  omega

theorem length_of_readWord {word cs rest : List Char} (h : readWord word cs = some rest) :
    rest.length ≤ cs.length := by
  unfold readWord at h
  split at h
  · rw [← Option.some.inj h, List.length_drop]
    omega
  · simp at h

/-- A token takes at least the character that it starts with. -/
theorem length_of_readToken {c : Char} {cs rest : List Char} {t : Token}
    (h : readToken c cs = some (t, rest)) : rest.length ≤ cs.length := by
  unfold readToken at h
  split at h
  case h_7 =>
    obtain ⟨⟨pieces, after⟩, hread, hpair⟩ := Option.map_eq_some_iff.mp h
    have := length_of_readString hread
    simp only [Prod.mk.injEq] at hpair
    rw [← hpair.2]
    omega
  case h_8 | h_9 | h_10 =>
    obtain ⟨after, hread, hpair⟩ := Option.map_eq_some_iff.mp h
    simp only [Prod.mk.injEq] at hpair
    rw [← hpair.2]
    exact length_of_readWord hread
  case h_11 =>
    obtain ⟨⟨digits, after⟩, hread, hpair⟩ := Option.map_eq_some_iff.mp h
    have := length_of_readMagnitude hread
    simp only [Prod.mk.injEq] at hpair
    rw [← hpair.2]
    omega
  case h_12 =>
    split at h
    · obtain ⟨⟨digits, after⟩, hread, hpair⟩ := Option.map_eq_some_iff.mp h
      have := length_of_readMagnitude hread
      simp only [Prod.mk.injEq] at hpair
      simp only [List.length_cons] at this
      rw [← hpair.2]
      omega
    · simp at h
  all_goals
    simp only [Option.some.injEq, Prod.mk.injEq] at h
    simp [h.2]

/-- The tokens of text, unless some of it belongs to none. -/
def tokens? (cs : List Char) : Option (List Token) :=
  match cs with
  | [] => some []
  | c :: rest =>
    if isSpace c then tokens? rest
    else
      match _h : readToken c rest with
      | none => none
      | some (t, rest) => (tokens? rest).map (t :: ·)
termination_by cs.length
decreasing_by
  · simp
  · have := length_of_readToken _h
    simp only [List.length_cons]
    omega

end LogLayout.Json
