namespace LogLayout.Text

/-- The number of bytes that characters take in UTF-8. -/
def byteSize : List Char → Nat
  | [] => 0
  | c :: cs => c.utf8Size + byteSize cs

/-- The characters that end at or before a byte offset. -/
def charsUpTo (offset : Nat) : List Char → List Char
  | [] => []
  | c :: cs => if c.utf8Size ≤ offset then c :: charsUpTo (offset - c.utf8Size) cs else []

/-- The characters from a byte offset on. -/
def charsFrom (offset : Nat) : List Char → List Char
  | [] => []
  | c :: cs => if c.utf8Size ≤ offset then charsFrom (offset - c.utf8Size) cs else c :: cs

/-- The characters before and after a byte offset, unless it lies inside a character or past the
end. -/
def cutAt? : Nat → List Char → Option (List Char × List Char)
  | 0, cs => some ([], cs)
  | _ + 1, [] => none
  | offset + 1, c :: cs =>
    if c.utf8Size ≤ offset + 1 then
      (cutAt? (offset + 1 - c.utf8Size) cs).map fun (before, after) => (c :: before, after)
    else none

/-- The byte offset of the character number `n`, or of the end when there is none. -/
def charOffset (n : Nat) (cs : List Char) : Nat :=
  byteSize (cs.take n)

/-- The part of `s` that ends at a byte offset. -/
def upTo (s : String) (offset : Nat) : String :=
  String.ofList (charsUpTo offset s.toList)

/-- The part of `s` that starts at a byte offset. -/
def startingAt (s : String) (offset : Nat) : String :=
  String.ofList (charsFrom offset s.toList)

@[simp] theorem byteSize_append (xs ys : List Char) :
    byteSize (xs ++ ys) = byteSize xs + byteSize ys := by
  induction xs with
  | nil => simp [byteSize]
  | cons c r ih => simp [byteSize, ih, Nat.add_assoc]

theorem charsUpTo_zero (cs : List Char) : charsUpTo 0 cs = [] := by
  cases cs with
  | nil => rfl
  | cons c r =>
    have hpos := c.utf8Size_pos
    simp [charsUpTo]
    omega

theorem charsFrom_zero (cs : List Char) : charsFrom 0 cs = cs := by
  cases cs with
  | nil => rfl
  | cons c r =>
    have hpos := c.utf8Size_pos
    simp [charsFrom]
    omega

/-- A cut at the size of a leading part gives that part. -/
theorem charsUpTo_append (xs ys : List Char) : charsUpTo (byteSize xs) (xs ++ ys) = xs := by
  induction xs with
  | nil => exact charsUpTo_zero ys
  | cons c r ih => simp [charsUpTo, byteSize, ih]

/-- A cut at the size of a leading part leaves what follows it. -/
theorem charsFrom_append (xs ys : List Char) : charsFrom (byteSize xs) (xs ++ ys) = ys := by
  induction xs with
  | nil => exact charsFrom_zero ys
  | cons c r ih => simp [charsFrom, byteSize, ih]

/-- The characters of text take as many bytes as the text. -/
@[simp] theorem byteSize_toList (s : String) : byteSize s.toList = s.utf8ByteSize := by
  have hchars : ∀ cs : List Char, (String.ofList cs).utf8ByteSize = byteSize cs := by
    intro cs
    induction cs with
    | nil => rfl
    | cons c cs ih =>
      rw [String.ofList_cons, String.utf8ByteSize_append, String.utf8ByteSize_singleton, ih,
        byteSize]
  rw [← hchars, String.ofList_toList]

/-- Text that was appended to is still there. -/
theorem upTo_append (s t : String) : upTo (s ++ t) s.utf8ByteSize = s := by
  rw [upTo, String.toList_append, ← byteSize_toList, charsUpTo_append, String.ofList_toList]

/-- What was appended is what stands after the text. -/
theorem startingAt_append (s t : String) : startingAt (s ++ t) s.utf8ByteSize = t := by
  rw [startingAt, String.toList_append, ← byteSize_toList, charsFrom_append, String.ofList_toList]

theorem toList_append_eq_take_drop (s t : String) (n : Nat) :
    (s ++ t).toList = (s.toList ++ t.toList.take n) ++ t.toList.drop n := by
  rw [String.toList_append, List.append_assoc, List.take_append_drop]

theorem byteSize_append_take (s t : String) (n : Nat) :
    byteSize (s.toList ++ t.toList.take n) = s.utf8ByteSize + charOffset n t.toList := by
  rw [byteSize_append, byteSize_toList, charOffset]

/-- A cut at a character of what was appended keeps the characters before it. -/
theorem upTo_append_charOffset (s t : String) (n : Nat) :
    upTo (s ++ t) (s.utf8ByteSize + charOffset n t.toList) =
      s ++ String.ofList (t.toList.take n) := by
  rw [upTo, toList_append_eq_take_drop s t n, ← byteSize_append_take, charsUpTo_append,
    String.ofList_append, String.ofList_toList]

/-- A cut at a character of what was appended leaves the characters from it on. -/
theorem startingAt_append_charOffset (s t : String) (n : Nat) :
    startingAt (s ++ t) (s.utf8ByteSize + charOffset n t.toList) =
      String.ofList (t.toList.drop n) := by
  rw [startingAt, toList_append_eq_take_drop s t n, ← byteSize_append_take, charsFrom_append]

end LogLayout.Text
