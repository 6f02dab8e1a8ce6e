namespace LogLayout.Text

/-- The segments of text between separators. Those without characters count too. -/
def segments (separator : Char) : List Char → List (List Char)
  | [] => [[]]
  | c :: cs =>
    if c = separator then [] :: segments separator cs
    else (segments separator cs).modifyHead (c :: ·)

theorem segments_ne_nil (separator : Char) (cs : List Char) : segments separator cs ≠ [] := by
  induction cs with
  | nil => simp [segments]
  | cons c cs ih =>
    simp only [segments]
    split
    · simp
    · simpa using ih

/-- Nothing is lost by cutting. -/
theorem intercalate_segments (separator : Char) (cs : List Char) :
    [separator].intercalate (segments separator cs) = cs := by
  induction cs with
  | nil => rfl
  | cons c cs ih =>
    obtain ⟨segment, rest, hsegments⟩ :=
      List.exists_cons_of_ne_nil (segments_ne_nil separator cs)
    simp only [segments]
    split
    · rename_i hc
      rw [hsegments] at ih ⊢
      simpa [List.intercalate, hc] using ih
    · rw [hsegments] at ih ⊢
      cases rest with
      | nil => simpa [List.intercalate] using ih
      | cons next rest => simpa [List.intercalate] using ih

theorem segments_append_separator (separator : Char) (front back : List Char) :
    segments separator (front ++ separator :: back) =
      segments separator front ++ segments separator back := by
  induction front with
  | nil => simp [segments]
  | cons c front ih =>
    obtain ⟨segment, rest, hsegments⟩ :=
      List.exists_cons_of_ne_nil (segments_ne_nil separator front)
    simp only [List.cons_append, segments, ih, hsegments]
    split <;> rfl

theorem length_segments (separator : Char) (cs : List Char) :
    (segments separator cs).length = cs.count separator + 1 := by
  induction cs with
  | nil => rfl
  | cons c cs ih =>
    by_cases hc : c = separator <;> simp [segments, hc, ih]

end LogLayout.Text
