namespace LogLayout.Utf8

/-- Why bytes are not text; indices count bytes from zero. -/
inductive Fault where
  /-- The `length` bytes from `index` on start no character. -/
  | invalid (index length : Nat)
  /-- The bytes end inside the character that starts at `index`. -/
  | incomplete (index : Nat)
  deriving DecidableEq, Repr

/-- The fault in words. -/
def Fault.message : Fault → String
  | .invalid index length => s!"invalid utf-8 sequence of {length} bytes from index {index}"
  | .incomplete index => s!"incomplete utf-8 byte sequence from index {index}"

/-- The bytes of text. -/
def encode (s : String) : List UInt8 :=
  s.toList.flatMap String.utf8EncodeChar

/-- The range of a byte that continues a character. -/
def continuation : Nat × Nat := (0x80, 0xBF)

/-- What a first byte asks for: the ranges of the bytes after it, and the bits that it gives
itself. The second byte is bounded so that no character has two spellings and no surrogate or
number above U+10FFFF has one. -/
def lead (b : Nat) : Option (List (Nat × Nat) × Nat) :=
  if b < 0x80 then some ([], b)
  else if 0xC2 ≤ b ∧ b ≤ 0xDF then some ([continuation], b - 0xC0)
  else if b = 0xE0 then some ([(0xA0, 0xBF), continuation], 0)
  else if b = 0xED then some ([(0x80, 0x9F), continuation], 0xD)
  else if 0xE1 ≤ b ∧ b ≤ 0xEF then some ([continuation, continuation], b - 0xE0)
  else if b = 0xF0 then some ([(0x90, 0xBF), continuation, continuation], 0)
  else if 0xF1 ≤ b ∧ b ≤ 0xF3 then some ([continuation, continuation, continuation], b - 0xF0)
  else if b = 0xF4 then some ([(0x80, 0x8F), continuation, continuation], 4)
  else none

/-- A character that has been started. -/
structure Pending where
  /-- The ranges of the bytes that are still to come; none between characters. -/
  ranges : List (Nat × Nat) := []
  /-- The bits read so far. -/
  bits : Nat := 0
  /-- The number of bytes read so far. -/
  taken : Nat := 0

/-- Reads bytes, the first of them at `index`, with a character pending. A fault is found at the
first byte that no text could hold there, and told with the place of the character that it
spoils. -/
def decodeFrom (index : Nat) (pending : Pending) : List UInt8 → Except Fault (List Char)
  | [] =>
    if pending.ranges.isEmpty then .ok [] else .error (.incomplete (index - pending.taken))
  | byte :: rest =>
    let b := byte.toNat
    match pending.ranges with
    | [] =>
      match lead b with
      | none => .error (.invalid index 1)
      | some ([], bits) => (decodeFrom (index + 1) {} rest).map (Char.ofNat bits :: ·)
      | some (ranges, bits) => decodeFrom (index + 1) { ranges, bits, taken := 1 } rest
    | (low, high) :: ranges =>
      let bits := pending.bits * 0x40 + (b - 0x80)
      if low ≤ b ∧ b ≤ high then
        match ranges with
        | [] => (decodeFrom (index + 1) {} rest).map (Char.ofNat bits :: ·)
        | _ => decodeFrom (index + 1) { ranges, bits, taken := pending.taken + 1 } rest
      else .error (.invalid (index - pending.taken) pending.taken)

/-- The text of bytes, or the first fault in them. -/
def decode (bytes : List UInt8) : Except Fault String :=
  (decodeFrom 0 {} bytes).map String.ofList

end LogLayout.Utf8
