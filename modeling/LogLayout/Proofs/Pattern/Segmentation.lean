import LogLayout.Pattern.Token
import LogLayout.Proofs.Pattern.OptionGroups
import LogLayout.Proofs.Pattern.WidthText

namespace LogLayout.Pattern

/-- What the letters after a width are read as: their longest registered part, or all of them when
no part is registered. The part without letters does not count. -/
inductive IsNameOf (isName : List Char → Bool) (letters name : List Char) : Prop where
  | registered (nonempty : name ≠ []) (leads : name <+: letters) (known : isName name = true)
      (longest : ∀ p, p <+: letters → isName p = true → p.length ≤ name.length)
  | unknown (all : name = letters) (none : ∀ p, p <+: letters → p ≠ [] → isName p = false)

private theorem longestName?_eq_some {isName : List Char → Bool} {letters name : List Char}
    {n : Nat} (hn : n ≤ letters.length) (h : longestName? isName letters n = some name) :
    name ≠ [] ∧ name <+: letters ∧ isName name = true ∧
      ∀ p, p <+: letters → isName p = true → p.length ≤ n → p.length ≤ name.length := by
  induction n with
  | zero => simp [longestName?] at h
  | succ n ih =>
    simp only [longestName?] at h
    by_cases hname : isName (letters.take (n + 1)) = true
    · rw [if_pos hname] at h
      obtain rfl := Option.some.inj h
      have hlength : (letters.take (n + 1)).length = n + 1 := List.length_take_of_le hn
      refine ⟨?_, List.take_prefix _ _, hname, ?_⟩
      · intro hnil
        simp [hnil] at hlength
      · intro p _ _ hp
        rwa [hlength]
    · rw [if_neg hname] at h
      obtain ⟨hne, hleads, hknown, hlongest⟩ := ih (by omega) h
      refine ⟨hne, hleads, hknown, ?_⟩
      intro p hp hpname hlength
      have hshorter : p.length ≠ n + 1 := by
        intro heq
        rw [List.prefix_iff_eq_take.mp hp, heq] at hpname
        exact hname hpname
      exact hlongest p hp hpname (by omega)

private theorem longestName?_eq_none {isName : List Char → Bool} {letters : List Char} {n : Nat}
    (h : longestName? isName letters n = none) :
    ∀ p, p <+: letters → p ≠ [] → p.length ≤ n → isName p = false := by
  induction n with
  | zero =>
    intro p _ hne hlength
    exact absurd (List.eq_nil_of_length_eq_zero (Nat.le_zero.mp hlength)) hne
  | succ n ih =>
    simp only [longestName?] at h
    by_cases hname : isName (letters.take (n + 1)) = true
    · rw [if_pos hname] at h
      cases h
    · rw [if_neg hname] at h
      intro p hp hne hlength
      by_cases heq : p.length = n + 1
      · rw [List.prefix_iff_eq_take.mp hp, heq]
        simpa using hname
      · exact ih h p hp hne (by omega)

theorem isNameOf_converterName (isName : List Char → Bool) (letters : List Char) :
    IsNameOf isName letters (converterName isName letters) := by
  cases hname : longestName? isName letters letters.length with
  | none =>
    rw [converterName, hname]
    exact .unknown rfl fun p hp hne => longestName?_eq_none hname p hp hne hp.length_le
  | some name =>
    rw [converterName, hname]
    obtain ⟨hne, hleads, hknown, hlongest⟩ := longestName?_eq_some (Nat.le_refl _) hname
    exact .registered hne hleads hknown fun p hp hpname => hlongest p hp hpname hp.length_le

/-- Letters are read as one name, the one that is chosen. -/
theorem isNameOf_iff {isName : List Char → Bool} {letters name : List Char} :
    IsNameOf isName letters name ↔ name = converterName isName letters := by
  constructor
  · intro h
    have hchosen := isNameOf_converterName isName letters
    generalize converterName isName letters = chosen at hchosen
    cases h with
    | registered hne hleads hknown hlongest =>
      cases hchosen with
      | registered hne' hleads' hknown' hlongest' =>
        have hlength : name.length = chosen.length :=
          Nat.le_antisymm (hlongest' name hleads hknown) (hlongest chosen hleads' hknown')
        have hprefix := List.prefix_of_prefix_length_le hleads hleads' (Nat.le_of_eq hlength)
        exact hprefix.eq_of_length hlength
      | unknown _ hnone =>
        rw [hnone name hleads hne] at hknown
        cases hknown
    | unknown hall hnone =>
      cases hchosen with
      | registered hne' hleads' hknown' _ =>
        rw [hnone chosen hleads' hne'] at hknown'
        cases hknown'
      | unknown hall' _ => rw [hall, hall']
  · rintro rfl
    exact isNameOf_converterName isName letters

namespace Specifier

/-- The specifier as it is written after its marker. -/
def body (s : Specifier) : List Char := s.width.source ++ (s.name ++ s.groups.source)

theorem source_eq_marker_cons (s : Specifier) : s.source = marker :: s.body := by
  rw [source, body, List.append_assoc]

/-- What makes a specifier the one that stands in front of `rest`: its marker is neither doubled
nor the end of the pattern, its width is as long as it can be, its name is what the letters after
the width are read as, and its groups are all that follow. -/
structure Fits (isName : List Char → Bool) (s : Specifier) (rest : List Char) : Prop where
  single : ∃ c ∈ (s.body ++ rest).head?, c ≠ marker
  width : s.width.IsLongest (s.body ++ rest)
  name : IsNameOf isName ((s.name ++ s.groups.source ++ rest).takeWhile Char.isAlpha) s.name
  groups : s.groups.Fits rest

theorem body_append (s : Specifier) (rest : List Char) :
    s.body ++ rest = s.width.source ++ (s.name ++ s.groups.source ++ rest) := by
  simp only [body, List.append_assoc]

theorem body_append_rest (isName : List Char → Bool) (cs : List Char) :
    (read isName cs).1.body ++ (read isName cs).2 = cs := by
  have hsource := source_append_rest isName cs
  rw [source_eq_marker_cons, List.cons_append] at hsource
  exact (List.cons.inj hsource).2

theorem fits_read (isName : List Char → Bool) {cs : List Char} (hcs : ∃ c ∈ cs.head?, c ≠ marker) :
    (read isName cs).1.Fits isName (read isName cs).2 := by
  have hbody := body_append_rest isName cs
  have hafter : (read isName cs).1.name ++ (read isName cs).1.groups.source ++ (read isName cs).2 =
      (WidthText.read cs).2 := by
    have hwidth := WidthText.source_append_rest cs
    rw [body_append] at hbody
    exact List.append_cancel_left (hbody.trans hwidth.symm)
  refine ⟨?_, ?_, ?_, ?_⟩
  · rwa [hbody]
  · rw [hbody]
    exact WidthText.isLongest_read cs
  · rw [hafter]
    exact isNameOf_converterName isName _
  · exact OptionGroups.fits_read _

theorem read_body_append {isName : List Char → Bool} {s : Specifier} {rest : List Char}
    (h : s.Fits isName rest) : read isName (s.body ++ rest) = (s, rest) := by
  have hwidth : WidthText.read (s.body ++ rest) =
      (s.width, s.name ++ s.groups.source ++ rest) := by
    have hfirst := (WidthText.isLongest_iff.mp h.width).symm
    have hsource := WidthText.source_append_rest (s.body ++ rest)
    rw [hfirst, body_append s rest] at hsource
    rw [body_append s rest] at hfirst ⊢
    exact Prod.ext hfirst (List.append_cancel_left hsource)
  have hname := (isNameOf_iff.mp h.name).symm
  have hdrop : (s.name ++ s.groups.source ++ rest).drop s.name.length =
      s.groups.source ++ rest := by
    rw [List.append_assoc, List.drop_left]
  have hgroups := OptionGroups.read_source_append h.groups
  simp only [read, hwidth, hname, hdrop, hgroups]

/-- A specifier with a registered name and with closed groups alone fits at the end of text. -/
theorem fits_nil {isName : List Char → Bool} {s : Specifier} (hwidth : s.width.WellFormed)
    (hnonempty : s.name ≠ []) (hletters : ∀ c ∈ s.name, c.isAlpha = true)
    (hknown : isName s.name = true) (hbalanced : ∀ text ∈ s.groups.closed, Balanced text)
    (hclosed : s.groups.unclosed = none) : s.Fits isName [] := by
  obtain ⟨first, letters, hname⟩ := List.exists_cons_of_ne_nil hnonempty
  have hfirst : first.isAlpha = true := hletters first (by simp [hname])
  have hbody : s.body ++ [] = s.width.source ++ (s.name ++ s.groups.source) := List.append_nil _
  refine ⟨?_, ?_, ?_, ?_⟩
  · rw [hbody]
    cases hsource : s.width.source with
    | nil =>
      refine ⟨first, by simp [hname], ?_⟩
      rintro rfl
      revert hfirst
      decide
    | cons d ds =>
      refine ⟨d, rfl, ?_⟩
      have hd := WidthText.isWidthChar_of_mem_source hwidth (by simp [hsource] : d ∈ _)
      rintro rfl
      revert hd
      decide
  · rw [hbody]
    apply hwidth.isLongest_source.append
    intro c hc
    obtain rfl : first = c := by simpa [hname] using hc
    exact WidthText.isWidthChar_of_isAlpha hfirst
  · have hbrace : ∀ c ∈ s.groups.source.head?, c.isAlpha = false := by
      intro c hc
      rw [OptionGroups.eq_open_of_mem_head?_source hc]
      decide
    rw [List.append_nil, Text.takeWhile_run_append hletters hbrace]
    exact .registered hnonempty (List.prefix_refl _) hknown fun p hp _ => hp.length_le
  · refine ⟨hbalanced, ?_, by simp⟩
    intro text htext
    rw [hclosed] at htext
    cases htext

end Specifier

namespace Token

/-- What makes a token the one that stands in front of `rest`. -/
def Fits (isName : List Char → Bool) (rest : List Char) : Token → Prop
  | .char c => c ≠ marker
  | .doubledMarker => True
  | .finalMarker => rest = []
  | .specifier s => s.Fits isName rest

theorem read_char (isName : List Char → Bool) {c : Char} (hc : c ≠ marker) (cs : List Char) :
    read isName c cs = (.char c, cs) := by
  simp [read, hc]

theorem read_final (isName : List Char → Bool) : read isName marker [] = (.finalMarker, []) := by
  simp [read]

theorem read_doubled (isName : List Char → Bool) (cs : List Char) :
    read isName marker (marker :: cs) = (.doubledMarker, cs) := by
  simp [read]

theorem read_specifier (isName : List Char → Bool) {cs : List Char}
    (hcs : ∃ c ∈ cs.head?, c ≠ marker) :
    read isName marker cs =
      (.specifier (Specifier.read isName cs).1, (Specifier.read isName cs).2) := by
  obtain ⟨d, hd, hne⟩ := hcs
  obtain ⟨ds, rfl⟩ := List.head?_eq_some_iff.mp hd
  simp [read, hne]

theorem fits_read (isName : List Char → Bool) (c : Char) (cs : List Char) :
    (read isName c cs).1.Fits isName (read isName c cs).2 := by
  by_cases hc : c = marker
  · subst hc
    cases cs with
    | nil =>
      rw [read_final]
      rfl
    | cons d ds =>
      by_cases hd : d = marker
      · subst hd
        rw [read_doubled]
        trivial
      · have hspecifier : ∃ c ∈ (d :: ds).head?, c ≠ marker := ⟨d, rfl, hd⟩
        rw [read_specifier isName hspecifier]
        exact Specifier.fits_read isName hspecifier
  · rw [read_char isName hc]
    exact hc

/-- Reading gives exactly the token that fits in front of what it leaves. -/
theorem read_eq_iff {isName : List Char → Bool} {c : Char} {cs rest : List Char} {t : Token} :
    read isName c cs = (t, rest) ↔ t.source ++ rest = c :: cs ∧ t.Fits isName rest := by
  constructor
  · intro h
    have hsource := source_append_rest isName c cs
    have hfits := fits_read isName c cs
    rw [h] at hsource hfits
    exact ⟨hsource, hfits⟩
  · rintro ⟨hsource, hfits⟩
    cases t with
    | char d =>
      obtain ⟨rfl, rfl⟩ := List.cons.inj hsource
      exact read_char isName hfits rest
    | doubledMarker =>
      obtain ⟨rfl, rfl⟩ := List.cons.inj hsource
      exact read_doubled isName rest
    | finalMarker =>
      obtain rfl : rest = [] := hfits
      obtain ⟨rfl, rfl⟩ := List.cons.inj hsource
      exact read_final isName
    | specifier s =>
      have hs : s.Fits isName rest := hfits
      rw [source, Specifier.source_eq_marker_cons, List.cons_append] at hsource
      obtain ⟨rfl, rfl⟩ := List.cons.inj hsource
      rw [read_specifier isName hs.single, Specifier.read_body_append hs]

end Token

/-- A pattern cut into tokens from the left, each of which fits in front of what follows it. -/
inductive Segmentation (isName : List Char → Bool) : List Char → List Token → Prop where
  | nil : Segmentation isName [] []
  | cons {t : Token} {rest : List Char} {ts : List Token} (fits : t.Fits isName rest)
      (tail : Segmentation isName rest ts) : Segmentation isName (t.source ++ rest) (t :: ts)

theorem segmentation_tokens (isName : List Char → Bool) (cs : List Char) :
    Segmentation isName cs (tokens isName cs) := by
  fun_induction tokens isName cs with
  | case1 => exact .nil
  | case2 c cs ih =>
    have hcons := Segmentation.cons (Token.fits_read isName c cs) ih
    rwa [Token.source_append_rest] at hcons

/-- There is one way to cut a pattern into tokens, the one that is read. -/
theorem segmentation_iff {isName : List Char → Bool} {cs : List Char} {ts : List Token} :
    Segmentation isName cs ts ↔ ts = tokens isName cs := by
  constructor
  · intro h
    induction h with
    | nil => rw [tokens]
    | @cons t rest ts fits _ ih =>
      obtain ⟨c, cs, hcs⟩ := List.exists_cons_of_length_pos
        (show 0 < (t.source ++ rest).length by
          have := t.length_source_pos
          rw [List.length_append]
          omega)
      have hread : Token.read isName c cs = (t, rest) := Token.read_eq_iff.mpr ⟨hcs, fits⟩
      rw [hcs, tokens, hread, ih]
  · rintro rfl
    exact segmentation_tokens isName cs

end LogLayout.Pattern
