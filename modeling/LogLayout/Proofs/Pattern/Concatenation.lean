import LogLayout.Proofs.Pattern.Segmentation
import LogLayout.Proofs.Pattern.Values

namespace LogLayout.Pattern

/-- Whether a character behind a specifier could be read as a part of it. -/
def continues (c : Char) : Bool := c.isAlpha || WidthText.isWidthChar c || c = '{'

theorem continues_eq_false_iff {c : Char} : continues c = false ↔
    c.isAlpha = false ∧ WidthText.isWidthChar c = false ∧ c ≠ '{' := by
  simp [continues, Bool.or_eq_false_iff, and_assoc]

/-- Whether a token is finished by its own last character rather than by the end of the pattern. -/
def Token.IsComplete : Token → Prop
  | .finalMarker => False
  | .specifier s => s.groups.unclosed = none
  | _ => True

instance : DecidablePred Token.IsComplete
  | .char _ | .doubledMarker => inferInstanceAs (Decidable True)
  | .finalMarker => inferInstanceAs (Decidable False)
  | .specifier s => inferInstanceAs (Decidable (s.groups.unclosed = none))

section Append

variable {isName : List Char → Bool} {rest added : List Char}

/-- A specifier takes in none of the text that is added behind what follows it. -/
theorem Specifier.Fits.append {s : Specifier} (h : s.Fits isName rest)
    (hclosed : s.groups.unclosed = none) (hadded : ∀ c ∈ added.head?, continues c = false) :
    s.Fits isName (rest ++ added) := by
  have halpha : ∀ c ∈ added.head?, c.isAlpha = false := by
    intro c hc
    exact (continues_eq_false_iff.mp (hadded c hc)).1
  have hwidth : ∀ c ∈ added.head?, WidthText.isWidthChar c = false := by
    intro c hc
    exact (continues_eq_false_iff.mp (hadded c hc)).2.1
  have hopen : ∀ c ∈ added.head?, c ≠ '{' := by
    intro c hc
    exact (continues_eq_false_iff.mp (hadded c hc)).2.2
  refine ⟨?_, ?_, ?_, h.groups.append hclosed hopen⟩
  · obtain ⟨c, hc, hne⟩ := h.single
    obtain ⟨cs, hcs⟩ := List.head?_eq_some_iff.mp hc
    refine ⟨c, ?_, hne⟩
    rw [← List.append_assoc, hcs]
    rfl
  · rw [← List.append_assoc]
    exact h.width.append hwidth
  · rw [← List.append_assoc, Text.takeWhile_append_of_head halpha]
    exact h.name

theorem Token.Fits.append {t : Token} (h : t.Fits isName rest) (hcomplete : t.IsComplete)
    (hadded : ∀ c ∈ added.head?, continues c = false) : t.Fits isName (rest ++ added) := by
  cases t with
  | char c => exact h
  | doubledMarker => trivial
  | finalMarker => exact hcomplete.elim
  | specifier s => exact Specifier.Fits.append h hcomplete hadded

/-- Cutting two patterns one behind the other is cutting each of them. -/
theorem Segmentation.append {cs : List Char} {ts us : List Token}
    (h : Segmentation isName cs ts) (hadded : Segmentation isName added us)
    (hcomplete : ∀ t ∈ ts, t.IsComplete) (hhead : ∀ c ∈ added.head?, continues c = false) :
    Segmentation isName (cs ++ added) (ts ++ us) := by
  -- The added text comes behind the rest of every token, not only behind the last one.
  induction h with
  | nil => exact hadded
  | @cons t rest ts fits _ ih =>
    have hrest := ih fun u hu => hcomplete u (List.mem_cons_of_mem t hu)
    have hfits := fits.append (hcomplete t List.mem_cons_self) hhead
    rw [List.append_assoc]
    exact .cons hfits hrest

end Append

theorem tokens_append {isName : List Char → Bool} {cs added : List Char}
    (hcomplete : ∀ t ∈ tokens isName cs, t.IsComplete)
    (hhead : ∀ c ∈ added.head?, continues c = false) :
    tokens isName (cs ++ added) = tokens isName cs ++ tokens isName added := by
  have hcs := segmentation_tokens isName cs
  have hadded := segmentation_tokens isName added
  exact (segmentation_iff.mp (hcs.append hadded hcomplete hhead)).symm

/-- Two patterns one behind the other render as the first and then the second, unless the first
ends in a marker or in an open group or the second starts with a character that could belong to a
specifier at the end of the first. -/
theorem appendTo_compile_append (registry : Registry) {p q : String}
    (hcomplete : ∀ t ∈ tokens registry.isName p.toList, t.IsComplete)
    (hhead : ∀ c ∈ q.toList.head?, continues c = false) (e : Event) (buffer : String) :
    (compile registry (p ++ q)).chain.appendTo e buffer =
      (compile registry q).chain.appendTo e ((compile registry p).chain.appendTo e buffer) := by
  have htokens := tokens_append hcomplete hhead
  rw [← String.toList_append] at htokens
  have htext : (compile registry (p ++ q)).chain.text e =
      (compile registry p).chain.text e ++ (compile registry q).chain.text e := by
    rw [text_compile, text_compile, text_compile, htokens, renderTokens_append]
  rw [Chain.appendTo_eq_append, Chain.appendTo_eq_append, Chain.appendTo_eq_append, htext,
    String.append_assoc]

/-- Here the seam lies between a specifier without a name and one whose width is refused. -/
theorem appendTo_compile_append_refused :
    (∀ t ∈ tokens Registry.builtins.isName "%plain %-5t is %-".toList, t.IsComplete) ∧
    (∀ c ∈ "%5000m%n".toList.head?, continues c = false) ∧
    (compile Registry.builtins ("%plain %-5t is %-" ++ "%5000m%n")).chain.appendTo {} "> " =
      (compile Registry.builtins "%5000m%n").chain.appendTo {}
        ((compile Registry.builtins "%plain %-5t is %-").chain.appendTo {} "> ") := by
  have hcomplete :
      ∀ t ∈ tokens Registry.builtins.isName "%plain %-5t is %-".toList, t.IsComplete := by
    decide +kernel
  have hhead : ∀ c ∈ "%5000m%n".toList.head?, continues c = false := by
    intro c hc
    obtain rfl : '%' = c := by simpa using hc
    decide
  exact ⟨hcomplete, hhead, appendTo_compile_append Registry.builtins hcomplete hhead _ _⟩

end LogLayout.Pattern
