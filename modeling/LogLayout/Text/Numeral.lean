namespace LogLayout.Text

/-- The least number that does not fit into 64 bits. -/
def wordBound : Nat := 0x10000000000000000

/-- The number that decimal digits stand for; no digits stand for zero. -/
def decimalValue (digits : List Char) : Nat :=
  digits.foldl (fun n c => 10 * n + (c.toNat - '0'.toNat)) 0

/-- Reads a number below 2⁶⁴, with an optional plus sign in front. -/
def word? (cs : List Char) : Option Nat :=
  let digits := match cs with
    | '+' :: rest => rest
    | cs => cs
  if digits.isEmpty || !digits.all Char.isDigit then none
  else if decimalValue digits < wordBound then some (decimalValue digits)
  else none

/-- The value of a hexadecimal digit, in either case. -/
def hexDigit? (c : Char) : Option Nat :=
  if c.isDigit then some (c.toNat - '0'.toNat)
  else if 'a'.toNat ≤ c.toNat ∧ c.toNat ≤ 'f'.toNat then some (c.toNat - 'a'.toNat + 10)
  else if 'A'.toNat ≤ c.toNat ∧ c.toNat ≤ 'F'.toNat then some (c.toNat - 'A'.toNat + 10)
  else none

/-- The number that hexadecimal digits stand for. -/
def hexValue? (digits : List Char) : Option Nat :=
  digits.foldlM (fun n c => return n * 16 + (← hexDigit? c)) 0

/-- The character with a number, if there is one. -/
def charOfNumber? (n : Nat) : Option Char :=
  if n.isValidChar then some (Char.ofNat n) else none

end LogLayout.Text
