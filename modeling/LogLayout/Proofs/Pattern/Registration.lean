import LogLayout.Proofs.Pattern.Calls
import LogLayout.Proofs.Pattern.Recovery

namespace LogLayout.Pattern

section Segmentation

variable {isName isName' : List Char → Bool}

theorem IsNameOf.congr {letters name : List Char} (h : IsNameOf isName letters name)
    (hsame : ∀ p, p ≠ [] → p <+: letters → isName' p = isName p) :
    IsNameOf isName' letters name := by
  cases h with
  | registered nonempty leads known longest =>
    refine .registered nonempty leads (by rw [hsame name nonempty leads, known]) ?_
    intro p hp hpname
    by_cases hempty : p = []
    · simp [hempty]
    · exact longest p hp (by rw [← hsame p hempty hp, hpname])
  | unknown all none =>
    refine .unknown all ?_
    intro p hp hne
    rw [hsame p hne hp, none p hp hne]

theorem Token.Fits.congr {t : Token} {rest : List Char} (h : t.Fits isName rest)
    (hsame : ∀ p, p ≠ [] → (∀ c ∈ p, c.isAlpha = true) → p <:+: t.source ++ rest →
      isName' p = isName p) : t.Fits isName' rest := by
  cases t with
  | specifier s =>
    obtain ⟨hsingle, hwidth, hname, hgroups⟩ := h
    -- Nothing but the letters after the width is looked up.
    refine ⟨hsingle, hwidth, hname.congr ?_, hgroups⟩
    intro p hne hleads
    refine hsame p hne ?_ ?_
    · intro c hc
      exact List.mem_takeWhile_imp (hleads.subset hc)
    · have hafter : s.name ++ s.groups.source ++ rest <:+ (Token.specifier s).source ++ rest := by
        refine ⟨marker :: s.width.source, ?_⟩
        simp [source, Specifier.source]
      exact (hleads.trans (List.takeWhile_prefix _)).isInfix.trans hafter.isInfix
  | _ => exact h

/-- Text is cut in the same way as long as the letters in it are the same names. -/
theorem Segmentation.congr {cs : List Char} {ts : List Token} (h : Segmentation isName cs ts)
    (hsame : ∀ p, p ≠ [] → (∀ c ∈ p, c.isAlpha = true) → p <:+: cs → isName' p = isName p) :
    Segmentation isName' cs ts := by
  induction h with
  | nil => exact .nil
  | @cons t rest ts fits _ ih =>
    refine .cons (fits.congr hsame) (ih ?_)
    intro p hne hletters hp
    exact hsame p hne hletters (hp.trans (List.suffix_append t.source rest).isInfix)

theorem isAlpha_of_mem_name {cs : List Char} {s : Specifier}
    (h : .specifier s ∈ tokens isName cs) {c : Char} (hc : c ∈ s.name) : c.isAlpha = true := by
  have hsegmentation := segmentation_tokens isName cs
  generalize tokens isName cs = ts at h hsegmentation
  induction hsegmentation with
  | nil => cases h
  | cons fits _ ih =>
    obtain rfl | h := List.mem_cons.mp h
    · exact fits.name.isAlpha_of_mem hc
    · exact ih h

theorem source_infix_of_mem_tokens {cs : List Char} {t : Token} (h : t ∈ tokens isName cs) :
    t.source <:+: cs := by
  rw [← flatMap_source_tokens isName cs, List.flatMap_def]
  exact List.infix_of_mem_flatten (List.mem_map_of_mem h)

end Segmentation

theorem Token.infix_of_mem_options {t : Token} {p : String} (h : p ∈ t.options) :
    p.toList <:+: t.source := by
  cases t with
  | specifier s =>
    obtain ⟨text, htext, rfl⟩ := List.mem_map.mp h
    obtain ⟨before, after, hgroups⟩ := OptionGroups.exists_source_eq_of_mem_texts htext
    refine ⟨marker :: (s.width.source ++ s.name ++ before ++ ['{']), after, ?_⟩
    simp [source, Specifier.source, hgroups]
  | _ => cases h

/-- Whether a key stands in a pattern as a converter name could. -/
structure Spells (pattern key : String) : Prop where
  nonempty : key ≠ ""
  letters : ∀ c ∈ key.toList, c.isAlpha = true
  occurs : key.toList <:+: pattern.toList

theorem Spells.of_infix {part pattern key : String} (h : Spells part key)
    (hpart : part.toList <:+: pattern.toList) : Spells pattern key :=
  ⟨h.nonempty, h.letters, h.occurs.trans hpart⟩

variable {registry : Registry} {key : String} {kind : ConverterKind}

/-- A specifier asks a registry for nothing but its name. -/
theorem Specifier.request_insert {s : Specifier} (h : s.name ≠ [] → s.key ≠ key)
    (position : Nat) :
    s.request (registry.insert key kind) position = s.request registry position := by
  by_cases hname : s.name = []
  · simp only [request, hname, List.isEmpty_nil, if_true]
  · simp only [request, Registry.prepare, Dictionary.get?_insert, if_neg (h hname)]

section Congr

variable {registry' : Registry} {position : Nat} {c c' : String → Compiled}

theorem Specifier.compile_congr {s : Specifier}
    (hrequest : s.request registry' position = s.request registry position)
    (hoptions : ∀ p ∈ s.options, c' p = c p) :
    (s.compile registry' position fun p _ => c' p) =
      s.compile registry position fun p _ => c p := by
  cases hr : s.request registry position with
  | error d =>
    rw [compile_of_error c hr, compile_of_error c' (hrequest.trans hr)]
  | ok r =>
    have hbuild : (r.blueprint.build fun p _ => c' p) = r.blueprint.build fun p _ => c p := by
      congr 1
      funext p hp
      exact hoptions p (mem_options_of_request hr hp)
    rw [compile_of_ok c hr, compile_of_ok c' (hrequest.trans hr), hbuild]

/-- A token is compiled in the same way when it asks for the same and its options are compiled in
the same way. -/
theorem Token.compile_congr {t : Token}
    (hrequest : ∀ s, t = .specifier s → s.request registry' position = s.request registry position)
    (hoptions : ∀ p ∈ t.options, c' p = c p) :
    (t.compile registry' position fun p _ => c' p) =
      t.compile registry position fun p _ => c p := by
  cases t with
  | specifier s => exact Specifier.compile_congr (hrequest s rfl) hoptions
  | _ => rfl

end Congr

theorem tokens_insert {pattern : String} (h : ¬ Spells pattern key) :
    tokens (Registry.isName (registry.insert key kind)) pattern.toList =
      tokens registry.isName pattern.toList := by
  apply Eq.symm
  apply segmentation_iff.mp
  apply (segmentation_tokens registry.isName pattern.toList).congr
  intro p hne hletters hp
  have hkey : String.ofList p ≠ key := by
    rintro rfl
    exact h ⟨by simpa using hne, by simpa using hletters, by simpa using hp⟩
  simp only [Registry.isName, Dictionary.contains, Dictionary.get?_insert, if_neg hkey]

/-- The induction is on the pattern, whose options spell no more than it does. -/
theorem compile_insert_of_not_spells {pattern : String} (h : ¬ Spells pattern key) :
    compile (registry.insert key kind) pattern = compile registry pattern := by
  rw [compile_eq, compile_eq, tokens_insert h]
  congr 1
  apply List.map_congr_left
  intro x hx
  have hmem := mem_of_mem_locate hx
  have hsource := source_infix_of_mem_tokens hmem
  apply Token.compile_congr
  · intro s hs
    rw [hs] at hmem hsource
    apply Specifier.request_insert
    rintro hname rfl
    have hspelled : s.name <:+: (Token.specifier s).source :=
      ⟨marker :: s.width.source, s.groups.source, by simp [Token.source, Specifier.source]⟩
    refine h ⟨by simpa [Specifier.key] using hname, ?_, ?_⟩
    · intro c hc
      exact isAlpha_of_mem_name hmem (by simpa [Specifier.key] using hc)
    · simpa [Specifier.key] using hspelled.trans hsource
  · intro p hp
    apply compile_insert_of_not_spells
    intro hspells
    exact h (hspells.of_infix ((Token.infix_of_mem_options hp).trans hsource))
termination_by pattern.length
decreasing_by
  have hlength := length_lt_of_mem_tokens hmem hp
  rwa [String.length_toList] at hlength

/-- Registering a converter under a key changes nothing for a pattern that does not spell the key:
the chain, with all that stands inside it, and the reports are what they were before. The empty key
and a key with anything but letters are spelled by no pattern. -/
theorem compile_insert (registry : Registry) (kind : ConverterKind) {key pattern : String}
    (h : key = "" ∨ (∃ c ∈ key.toList, c.isAlpha = false) ∨ ¬ key.toList <:+: pattern.toList) :
    compile (registry.insert key kind) pattern = compile registry pattern := by
  apply compile_insert_of_not_spells
  rintro ⟨hnonempty, hletters, hoccurs⟩
  obtain hempty | ⟨c, hc, hother⟩ | habsent := h
  · exact hnonempty hempty
  · rw [hletters c hc] at hother
    cases hother
  · exact habsent hoccurs

/-- A registered key of which all letters but the last are spelled. -/
theorem compile_insert_shorter :
    ¬ "level".toList <:+: "%equals\x7b%leve\x7d\x7bl\x7d\x7b%p\x7dl".toList ∧
    compile (Registry.builtins.insert "level" .thread)
        "%equals\x7b%leve\x7d\x7bl\x7d\x7b%p\x7dl" =
      compile Registry.builtins "%equals\x7b%leve\x7d\x7bl\x7d\x7b%p\x7dl" := by
  have habsent : ¬ "level".toList <:+: "%equals\x7b%leve\x7d\x7bl\x7d\x7b%p\x7dl".toList := by
    decide
  exact ⟨habsent, compile_insert Registry.builtins .thread (.inr (.inr habsent))⟩

end LogLayout.Pattern
