namespace LogLayout.Text

/-- The twenty-five characters with the Unicode property `White_Space`. The zero-width space and
the byte order mark are not among them. -/
def isBlank (c : Char) : Bool :=
  let n := c.toNat
  (9 ≤ n && n ≤ 13) || n == 0x20 || n == 0x85 || n == 0xA0 || n == 0x1680 ||
    (0x2000 ≤ n && n ≤ 0x200A) || n == 0x2028 || n == 0x2029 || n == 0x202F || n == 0x205F ||
    n == 0x3000

/-- Characters without the white space at their two ends. -/
def trimChars (cs : List Char) : List Char :=
  ((cs.dropWhile isBlank).reverse.dropWhile isBlank).reverse

/-- Text without the white space at its two ends. -/
def trim (s : String) : String :=
  String.ofList (trimChars s.toList)

/-- Whether text holds white space only, or nothing. -/
def isBlankText (s : String) : Bool :=
  s.toList.all isBlank

/-- Trimming leaves nothing exactly when there was nothing but white space. -/
theorem trimChars_eq_nil_iff (cs : List Char) : trimChars cs = [] ↔ cs.all isBlank = true := by
  have hdrop : ∀ l : List Char, l.dropWhile isBlank = [] ↔ l.all isBlank = true := by
    intro l
    induction l with
    | nil => simp
    | cons c r ih => by_cases hc : isBlank c = true <;> simp [hc, ih]
  constructor
  · intro h
    have hrest : (cs.dropWhile isBlank).all isBlank = true := by
      have := (hdrop (cs.dropWhile isBlank).reverse).1 (by simpa [trimChars] using h)
      simpa using this
    cases hd : cs.dropWhile isBlank with
    | nil => exact (hdrop cs).1 hd
    | cons c r =>
      have hhead : isBlank c = false := by
        have := List.head?_dropWhile_not isBlank cs
        simpa [hd] using this
      simp [hd, hhead] at hrest
  · intro h
    simp [trimChars, (hdrop cs).2 h]

theorem trim_eq_empty_iff (s : String) : trim s = "" ↔ isBlankText s = true := by
  rw [trim, isBlankText, ← trimChars_eq_nil_iff, ← String.toList_inj]
  simp

end LogLayout.Text
