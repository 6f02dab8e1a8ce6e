import LogLayout.Proofs.Checked.Specifier

namespace LogLayout.Pattern

/-- Texts one after the other, each between braces of its own. -/
def inBraces (texts : List (List Char)) : List Char :=
  texts.flatMap fun text => '{' :: (text ++ ['}'])

/-- `OptionsAt texts taken rest` says that `texts` are all the options in front of `rest` and that
`taken` is how they are written. -/
inductive OptionsAt : List (List Char) → List Char → List Char → Prop where
  /-- Every option has its closing brace, and no other option follows. -/
  | closed {texts : List (List Char)} {rest : List Char} (balanced : ∀ text ∈ texts, Balanced text)
      (maximal : ∀ c ∈ rest.head?, c ≠ '{') : OptionsAt texts (inBraces texts) rest
  /-- The last option lacks its closing brace, and goes on to the end. -/
  | unclosed {texts : List (List Char)} {last : List Char}
      (balanced : ∀ text ∈ texts, Balanced text) (nests : Nests 0 last) :
      OptionsAt (texts ++ [last]) (inBraces texts ++ '{' :: last) []

namespace OptionsAt

theorem of_fits {g : OptionGroups} {rest : List Char} (h : g.Fits rest) :
    OptionsAt g.texts g.source rest := by
  obtain ⟨closed, unclosed⟩ := g
  cases unclosed with
  | none =>
    have hoptions := OptionsAt.closed h.balanced h.maximal
    simpa [OptionGroups.texts, OptionGroups.source, inBraces] using hoptions
  | some last =>
    obtain ⟨hnests, rfl⟩ := h.unclosed last rfl
    exact OptionsAt.unclosed h.balanced hnests

theorem exists_fits {texts : List (List Char)} {taken rest : List Char}
    (h : OptionsAt texts taken rest) :
    ∃ g : OptionGroups, g.texts = texts ∧ g.source = taken ∧ g.Fits rest := by
  cases h with
  | closed balanced maximal =>
    refine ⟨⟨texts, none⟩, ?_, ?_, balanced, by simp, maximal⟩
    · simp [OptionGroups.texts]
    · simp [OptionGroups.source, inBraces]
  | @unclosed closed last balanced nests =>
    refine ⟨⟨closed, some last⟩, rfl, rfl, balanced, ?_, by simp⟩
    rintro text ⟨⟩
    exact ⟨nests, rfl⟩

/-- Options that are written in front of what is left are read. -/
theorem read_append {texts : List (List Char)} {taken rest : List Char}
    (h : OptionsAt texts taken rest) :
    (OptionGroups.read (taken ++ rest)).1.texts = texts ∧
      (OptionGroups.read (taken ++ rest)).1.source = taken ∧
      (OptionGroups.read (taken ++ rest)).2 = rest := by
  obtain ⟨g, htexts, rfl, hfits⟩ := h.exists_fits
  rw [OptionGroups.read_source_append hfits]
  exact ⟨htexts, rfl, rfl⟩

end OptionsAt

namespace Cursor

/-- Reads as many options as there are. -/
def options? (c : Cursor) : Option (List String × Cursor) := do
  let (groups, c) ← c.groups?
  return (groups.options, c)

/-- The options are read with nothing lost: written in braces again they are what the cursor went
over, but for the closing brace of a last one that goes on to the end. Each has its own braces in
pairs, no further one follows, and by this the options and the place of the cursor are known. -/
theorem options?_reads_all (before cs : List Char) :
    ∃ texts taken rest,
      (between before cs).options? =
        some (texts.map String.ofList, between (before ++ taken) rest) ∧
      taken ++ rest = cs ∧ OptionsAt texts taken rest ∧
      (OptionGroups.read cs).1.texts = texts ∧ (OptionGroups.read cs).2 = rest ∧
      ∀ texts' taken' rest', taken' ++ rest' = cs → OptionsAt texts' taken' rest' →
        texts' = texts ∧ taken' = taken ∧ rest' = rest := by
  have hsource := OptionGroups.source_append_rest cs
  have hfits := OptionGroups.fits_read cs
  refine ⟨(OptionGroups.read cs).1.texts, (OptionGroups.read cs).1.source,
    (OptionGroups.read cs).2, ?_, hsource, OptionsAt.of_fits hfits, rfl, rfl, ?_⟩
  · simp only [options?, groups?_between, OptionGroups.options, Option.bind_eq_bind,
      Option.bind_some, Option.pure_def]
  · rintro texts' taken' rest' rfl hoptions
    obtain ⟨htexts, htaken, hrest⟩ := hoptions.read_append
    exact ⟨htexts.symm, htaken.symm, hrest.symm⟩

/-- Braces inside an option, and an option without its closing brace. -/
example : (Cursor.mk "\x7b%\x7b\x7d\x7d\x7bö" 0).options? =
    some (["%\x7b\x7d", "ö"], ⟨"\x7b%\x7b\x7d\x7d\x7bö", 8⟩) := by
  cbv

end Cursor

end LogLayout.Pattern
