import LogLayout.Text.Offset

namespace LogLayout.Text

/-- Whether the bytes of text before an offset are whole characters. -/
def IsBoundary (s : String) (offset : Nat) : Prop := (⟨offset⟩ : String.Pos.Raw).IsValid s

instance (s : String) (offset : Nat) : Decidable (IsBoundary s offset) :=
  inferInstanceAs (Decidable (String.Pos.Raw.IsValid s ⟨offset⟩))

/-- The part of text between two byte offsets. -/
def slice? (s : String) (start stop : Nat) : Option String :=
  if start ≤ stop ∧ stop ≤ s.utf8ByteSize ∧ IsBoundary s start ∧ IsBoundary s stop then
    some (startingAt (upTo s stop) start)
  else none

/-- The part of text from a byte offset on. -/
def sliceFrom? (s : String) (start : Nat) : Option String := slice? s start s.utf8ByteSize

/-- The bytes of text between two offsets, which may lie inside characters. -/
def bytes? (s : String) (start stop : Nat) : Option ByteArray :=
  if start ≤ stop ∧ stop ≤ s.utf8ByteSize then some (s.toByteArray.extract start stop) else none

/-- Text cut to a number of bytes; text that is no longer stays as it is. -/
def truncate? (s : String) (size : Nat) : Option String :=
  if size ≤ s.utf8ByteSize then slice? s 0 size else some s

/-- Text with a piece put in at a byte offset. -/
def insert? (s : String) (offset : Nat) (piece : String) : Option String := do
  let front ← slice? s 0 offset
  let back ← sliceFrom? s offset
  return front ++ piece ++ back

/-- Text with a piece in place of the part between two byte offsets. -/
def replace? (s : String) (start stop : Nat) (piece : String) : Option String := do
  let _ ← slice? s start stop
  let front ← slice? s 0 start
  let back ← sliceFrom? s stop
  return front ++ piece ++ back

/-- The difference of two numbers. -/
def sub? (m n : Nat) : Option Nat := if n ≤ m then some (m - n) else none

theorem sub?_add_left (m n : Nat) : sub? (m + n) m = some n := by
  simp [sub?]

theorem sub?_add_right (m n : Nat) : sub? (m + n) n = some m := by
  simp [sub?]

/-- An offset is a boundary exactly when some leading part of the text ends at it. -/
theorem isBoundary_iff {s : String} {offset : Nat} :
    IsBoundary s offset ↔ ∃ front back, s = front ++ back ∧ front.utf8ByteSize = offset := by
  rw [IsBoundary, String.Pos.Raw.isValid_iff_exists_append]
  constructor
  · rintro ⟨front, back, hs, hoffset⟩
    exact ⟨front, back, hs, (congrArg String.Pos.Raw.byteIdx hoffset).symm⟩
  · rintro ⟨front, back, hs, rfl⟩
    exact ⟨front, back, hs, rfl⟩

theorem utf8ByteSize_le_append (s t : String) : s.utf8ByteSize ≤ (s ++ t).utf8ByteSize := by
  rw [String.utf8ByteSize_append]
  exact Nat.le_add_right _ _

/-- A part of text can be taken from where it starts to where it ends. -/
theorem slice?_append (front middle back : String) :
    slice? (front ++ middle ++ back) front.utf8ByteSize
      (front.utf8ByteSize + middle.utf8ByteSize) = some middle := by
  have hstart : IsBoundary (front ++ middle ++ back) front.utf8ByteSize :=
    isBoundary_iff.mpr ⟨front, middle ++ back, String.append_assoc, rfl⟩
  have hstop : IsBoundary (front ++ middle ++ back) (front ++ middle).utf8ByteSize :=
    isBoundary_iff.mpr ⟨front ++ middle, back, rfl, rfl⟩
  have horder := utf8ByteSize_le_append front middle
  have hinside := utf8ByteSize_le_append (front ++ middle) back
  rw [← String.utf8ByteSize_append, slice?, if_pos ⟨horder, hinside, hstart, hstop⟩, upTo_append,
    startingAt_append]

example : slice? "aéb" 1 3 = some "é" ∧ slice? "aéb" 1 2 = none := by decide

theorem slice?_zero_append (front back : String) :
    slice? (front ++ back) 0 front.utf8ByteSize = some front := by
  have hslice := slice?_append "" front back
  rwa [String.empty_append, String.utf8ByteSize_empty, Nat.zero_add] at hslice

theorem sliceFrom?_append (front back : String) :
    sliceFrom? (front ++ back) front.utf8ByteSize = some back := by
  have hslice := slice?_append front back ""
  rwa [String.append_empty, ← String.utf8ByteSize_append] at hslice

theorem slice?_ofList (front middle back : List Char) :
    slice? (String.ofList (front ++ middle ++ back)) (byteSize front)
      (byteSize (front ++ middle)) = some (String.ofList middle) := by
  have hslice := slice?_append (String.ofList front) (String.ofList middle) (String.ofList back)
  simpa only [← String.ofList_append, ← byteSize_toList, String.toList_ofList,
    byteSize_append] using hslice

theorem sliceFrom?_ofList (front back : List Char) :
    sliceFrom? (String.ofList (front ++ back)) (byteSize front) =
      some (String.ofList back) := by
  have hslice := sliceFrom?_append (String.ofList front) (String.ofList back)
  simpa only [← String.ofList_append, ← byteSize_toList, String.toList_ofList] using hslice

theorem truncate?_append (front back : String) :
    truncate? (front ++ back) front.utf8ByteSize = some front := by
  rw [truncate?, slice?_zero_append, if_pos (utf8ByteSize_le_append front back)]

theorem insert?_append (front back piece : String) :
    insert? (front ++ back) front.utf8ByteSize piece = some (front ++ piece ++ back) := by
  simp only [insert?, slice?_zero_append, sliceFrom?_append, Option.bind_eq_bind, Option.bind_some,
    Option.pure_def]

theorem replace?_append (front middle back piece : String) :
    replace? (front ++ middle ++ back) front.utf8ByteSize
      (front.utf8ByteSize + middle.utf8ByteSize) piece = some (front ++ piece ++ back) := by
  have hfront : slice? (front ++ middle ++ back) 0 front.utf8ByteSize = some front := by
    rw [String.append_assoc, slice?_zero_append]
  have hback : sliceFrom? (front ++ middle ++ back)
      (front.utf8ByteSize + middle.utf8ByteSize) = some back := by
    rw [← String.utf8ByteSize_append, sliceFrom?_append]
  simp only [replace?, slice?_append, hfront, hback, Option.bind_eq_bind, Option.bind_some,
    Option.pure_def]

theorem append_eq_ofList_take_drop (s t : String) (n : Nat) :
    s ++ t = s ++ String.ofList (t.toList.take n) ++ String.ofList (t.toList.drop n) := by
  rw [String.append_assoc, ← String.ofList_append, List.take_append_drop, String.ofList_toList]

theorem utf8ByteSize_ofList_take (t : String) (n : Nat) :
    (String.ofList (t.toList.take n)).utf8ByteSize = charOffset n t.toList := by
  rw [← byteSize_toList, String.toList_ofList, charOffset]

theorem truncate?_append_charOffset (s t : String) (n : Nat) :
    truncate? (s ++ t) (s.utf8ByteSize + charOffset n t.toList) =
      some (s ++ String.ofList (t.toList.take n)) := by
  rw [append_eq_ofList_take_drop s t n, ← utf8ByteSize_ofList_take, ← String.utf8ByteSize_append,
    truncate?_append]

theorem replace?_append_charOffset (s t : String) (n : Nat) :
    replace? (s ++ t) s.utf8ByteSize (s.utf8ByteSize + charOffset n t.toList) "" =
      some (s ++ String.ofList (t.toList.drop n)) := by
  rw [append_eq_ofList_take_drop s t n, ← utf8ByteSize_ofList_take, replace?_append,
    String.append_empty]

theorem bytes?_append (front back : String) :
    bytes? (front ++ back) front.utf8ByteSize (front.utf8ByteSize + back.utf8ByteSize) =
      some back.toByteArray := by
  have hinside : front.utf8ByteSize + back.utf8ByteSize ≤ (front ++ back).utf8ByteSize :=
    Nat.le_of_eq String.utf8ByteSize_append.symm
  rw [bytes?, if_pos ⟨Nat.le_add_right _ _, hinside⟩, String.toByteArray_append,
    ByteArray.extract_append_eq_right]
  · exact String.size_toByteArray.symm
  · rw [String.size_toByteArray, String.size_toByteArray]

end LogLayout.Text
