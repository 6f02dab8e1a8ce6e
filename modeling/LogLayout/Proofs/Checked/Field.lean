import LogLayout.Converter.Text
import LogLayout.FieldWidth
import LogLayout.Proofs.Checked.Text

namespace LogLayout

namespace FieldWidth

/-- Brings the end of a buffer to its width in place: the field is what stands from a byte offset
on. -/
def fitFrom? (w : FieldWidth) (start : Nat) (buffer : String) : Option String := do
  let field := (← Text.sliceFrom? buffer start).toList
  match w.maximum.filter (· < field.length) with
  | some m =>
    if w.cutLeft then
      let skip ← Text.sub? field.length m
      Text.replace? buffer start (start + Text.charOffset skip field) ""
    else Text.truncate? buffer (start + Text.charOffset m field)
  | none =>
    if field.length < w.minimum then
      let gap := String.ofList (List.replicate (← Text.sub? w.minimum field.length) ' ')
      if w.alignLeft then return buffer ++ gap else Text.insert? buffer start gap
    else return buffer

/-- A field that was appended to a buffer can be brought to its width. -/
theorem fitFrom?_append (w : FieldWidth) (buffer field : String) :
    w.fitFrom? buffer.utf8ByteSize (buffer ++ field) = some (buffer ++ w.fit field) := by
  simp only [fitFrom?, fit, fitChars_eq, Text.sliceFrom?_append, Option.bind_eq_bind,
    Option.bind_some, Option.pure_def]
  cases hmaximum : w.maximum.filter (· < field.toList.length) with
  | some m =>
    have hlong : m < field.toList.length := by
      simpa using (Option.filter_eq_some_iff.mp hmaximum).2
    have hskip : Text.sub? field.toList.length m = some (field.toList.length - m) :=
      if_pos (Nat.le_of_lt hlong)
    cases hcut : w.cutLeft with
    | false =>
      simp only [cut, hcut, Bool.false_eq_true, if_false, Text.truncate?_append_charOffset]
    | true =>
      simp only [cut, hcut, if_true, hskip, Option.bind_some, Text.replace?_append_charOffset]
  | none =>
    by_cases hshort : field.toList.length < w.minimum
    · have hgap : Text.sub? w.minimum field.toList.length =
          some (w.minimum - field.toList.length) := if_pos (Nat.le_of_lt hshort)
      cases halign : w.alignLeft <;>
        simp only [if_pos hshort, hgap, Option.bind_some, pad, halign, if_true, Bool.false_eq_true,
          if_false, Text.insert?_append, String.ofList_append, String.ofList_toList,
          String.append_assoc]
    · simp only [if_neg hshort, pad_of_minimum_le (Nat.le_of_not_lt hshort), String.ofList_toList]

end FieldWidth

/-- Whether the text of a number of bytes that stands in a buffer from a byte offset on is a given
one. -/
def regionEquals? (expected buffer : String) (start length : Nat) : Option Bool :=
  if expected.utf8ByteSize = length then
    (Text.bytes? buffer start (start + length)).map (expected.toByteArray.data = ·.data)
  else some false

theorem regionEquals?_append (expected buffer field : String) :
    regionEquals? expected (buffer ++ field) buffer.utf8ByteSize field.utf8ByteSize =
      some (decide (field = expected)) := by
  rw [regionEquals?]
  by_cases hlength : expected.utf8ByteSize = field.utf8ByteSize
  · rw [if_pos hlength, Text.bytes?_append, Option.map_some]
    simp [← ByteArray.ext_iff, String.toByteArray_inj, eq_comm]
  · have hne : field ≠ expected := by
      rintro rfl
      exact hlength rfl
    rw [if_neg hlength, decide_eq_false hne]

/-- The byte offsets of the dots in text that starts at an offset, from the left. -/
def dotOffsets (offset : Nat) : List Char → List Nat
  | [] => []
  | c :: cs =>
    if c = '.' then offset :: dotOffsets (offset + c.utf8Size) cs
    else dotOffsets (offset + c.utf8Size) cs

/-- The part of a name behind its dot number `n` from the right, or all of it when there is no such
dot. -/
def lastSegments? (n : Nat) (name : String) : Option String := do
  let index ← Text.sub? n 1
  let start := match (dotOffsets 0 name.toList).reverse[index]? with
    | some offset => offset + 1
    | none => 0
  Text.sliceFrom? name start

theorem dotOffsets_append (offset : Nat) (xs ys : List Char) :
    dotOffsets offset (xs ++ ys) =
      dotOffsets offset xs ++ dotOffsets (offset + Text.byteSize xs) ys := by
  induction xs generalizing offset with
  | nil => rfl
  | cons c xs ih =>
    by_cases hdot : c = '.' <;> simp [dotOffsets, Text.byteSize, hdot, ih, Nat.add_assoc]

theorem length_dotOffsets (offset : Nat) (cs : List Char) :
    (dotOffsets offset cs).length = cs.count '.' := by
  induction cs generalizing offset with
  | nil => rfl
  | cons c cs ih => by_cases hdot : c = '.' <;> simp [dotOffsets, hdot, ih]

/-- What stands before the dot that is looked for, or all when there are not enough dots. -/
theorem beforeDot_cases (n : Nat) (cs : List Char) :
    (cs.count '.' ≤ n ∧ beforeDot n cs = cs) ∨
    ((beforeDot n cs).count '.' = n ∧ ∃ rest, cs = beforeDot n cs ++ '.' :: rest) := by
  induction cs generalizing n with
  | nil => exact .inl ⟨Nat.zero_le n, rfl⟩
  | cons c cs ih =>
    by_cases hdot : c = '.'
    · cases n with
      | zero => simp [beforeDot, hdot]
      | succ n =>
        simp only [beforeDot, hdot, if_true, List.count_cons_self, Nat.add_right_cancel_iff]
        grind
    · simp only [beforeDot, if_neg hdot, List.count_cons_of_ne hdot]
      grind

/-- The last segments of a name are all of it when it has too few dots, and otherwise what stands
behind the dot that is looked for. -/
theorem lastSegments_cases (index : Nat) (name : String) :
    (name.toList.count '.' ≤ index ∧ lastSegments (index + 1) name = name) ∨
    ∃ front back, name.toList = front ++ '.' :: back ∧ back.count '.' = index ∧
      lastSegments (index + 1) name = String.ofList back := by
  rw [lastSegments]
  obtain ⟨hfew, hall⟩ | ⟨hdots, front, hname⟩ := beforeDot_cases index name.toList.reverse
  · left
    rw [List.count_reverse] at hfew
    rw [hall, List.reverse_reverse, String.ofList_toList]
    exact ⟨hfew, rfl⟩
  · right
    generalize beforeDot index name.toList.reverse = back at hdots hname
    refine ⟨front.reverse, back.reverse, ?_, List.count_reverse.trans hdots, rfl⟩
    rw [← List.reverse_reverse name.toList, hname]
    simp

/-- The last segments of a name can be taken, unless none are asked for. -/
theorem lastSegments?_eq_some {n : Nat} (hn : n ≠ 0) (name : String) :
    lastSegments? n name = some (lastSegments n name) := by
  obtain ⟨index, rfl⟩ := Nat.exists_eq_succ_of_ne_zero hn
  have hindex : Text.sub? (index + 1) 1 = some index := Text.sub?_add_right index 1
  simp only [lastSegments?, Nat.succ_eq_add_one, hindex, Option.bind_eq_bind, Option.bind_some]
  obtain ⟨hfew, hall⟩ | ⟨front, back, hname, hdots, hback⟩ := lastSegments_cases index name
  · have hnone : (dotOffsets 0 name.toList).reverse[index]? = none := by
      rw [List.getElem?_eq_none_iff, List.length_reverse, length_dotOffsets]
      exact hfew
    have hslice := Text.sliceFrom?_append "" name
    rw [String.empty_append, String.utf8ByteSize_empty] at hslice
    rw [hnone, hall]
    exact hslice
  · have hoffset : (dotOffsets 0 name.toList).reverse[index]? = some (Text.byteSize front) := by
      have hbehind : ∀ offset, (dotOffsets offset back).reverse.length = index := by
        intro offset
        rw [List.length_reverse, length_dotOffsets, hdots]
      rw [hname, dotOffsets_append, dotOffsets, if_pos rfl, List.reverse_append,
        List.reverse_cons, List.append_assoc, List.getElem?_append_right (Nat.le_of_eq (hbehind _)),
        hbehind, Nat.sub_self, Nat.zero_add]
      rfl
    have hslice := Text.sliceFrom?_ofList (front ++ ['.']) back
    rw [List.append_assoc, List.singleton_append, ← hname, String.ofList_toList,
      Text.byteSize_append] at hslice
    rw [hoffset, hback]
    exact hslice

end LogLayout
