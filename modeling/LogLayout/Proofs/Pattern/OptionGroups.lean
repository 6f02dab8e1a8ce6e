import LogLayout.Pattern.OptionGroups
import Mathlib.Data.List.Infix

namespace LogLayout.Pattern

/-- No leading part of the text closes more braces than it opens, `depth` more allowed. -/
def Nests (depth : Nat) (cs : List Char) : Prop :=
  ∀ p, p <+: cs → p.count '}' ≤ p.count '{' + depth

/-- Every brace of the text belongs to a pair inside it. -/
def Balanced (cs : List Char) : Prop :=
  Nests 0 cs ∧ cs.count '{' = cs.count '}'

instance (depth : Nat) (cs : List Char) : Decidable (Nests depth cs) :=
  decidable_of_iff (∀ p ∈ cs.inits, p.count '}' ≤ p.count '{' + depth)
    (by simp only [Nests, List.mem_inits])

instance (cs : List Char) : Decidable (Balanced cs) :=
  inferInstanceAs (Decidable (_ ∧ _))

theorem nests_nil (depth : Nat) : Nests depth [] := by
  intro p hp
  simp [List.prefix_nil.mp hp]

private theorem nests_cons_of_shift {c : Char} {cs : List Char} {depth shifted : Nat}
    (h : Nests shifted cs)
    (hshift : ∀ p : List Char, p.count '}' ≤ p.count '{' + shifted →
      (c :: p).count '}' ≤ (c :: p).count '{' + depth) : Nests depth (c :: cs) := by
  intro p hp
  obtain rfl | ⟨q, rfl, hq⟩ := List.prefix_cons_iff.mp hp
  · simp
  · exact hshift q (h q hq)

private theorem nests_of_cons {c : Char} {cs : List Char} {depth shifted : Nat}
    (h : Nests depth (c :: cs))
    (hshift : ∀ p : List Char, (c :: p).count '}' ≤ (c :: p).count '{' + depth →
      p.count '}' ≤ p.count '{' + shifted) : Nests shifted cs := by
  intro p hp
  exact hshift p (h (c :: p) ((List.prefix_cons_inj c).mpr hp))

private theorem counts_open (p : List Char) :
    ('{' :: p).count '{' = p.count '{' + 1 ∧ ('{' :: p).count '}' = p.count '}' :=
  ⟨List.count_cons_self, List.count_cons_of_ne (by decide)⟩

private theorem counts_close (p : List Char) :
    ('}' :: p).count '{' = p.count '{' ∧ ('}' :: p).count '}' = p.count '}' + 1 :=
  ⟨List.count_cons_of_ne (by decide), List.count_cons_self⟩

theorem nests_open_iff {depth : Nat} {cs : List Char} :
    Nests depth ('{' :: cs) ↔ Nests (depth + 1) cs := by
  constructor
  · intro h
    apply nests_of_cons h
    intro p hp
    obtain ⟨hopen, hclose⟩ := counts_open p
    omega
  · intro h
    apply nests_cons_of_shift h
    intro p hp
    obtain ⟨hopen, hclose⟩ := counts_open p
    omega

theorem nests_close_iff {depth : Nat} {cs : List Char} :
    Nests depth ('}' :: cs) ↔ ∃ outer, depth = outer + 1 ∧ Nests outer cs := by
  constructor
  · intro h
    have hfirst : 1 ≤ depth := by simpa using h ['}'] (by simp)
    obtain ⟨outer, rfl⟩ := Nat.exists_eq_add_of_le' hfirst
    refine ⟨outer, rfl, ?_⟩
    apply nests_of_cons h
    intro p hp
    obtain ⟨hopen, hclose⟩ := counts_close p
    omega
  · rintro ⟨outer, rfl, h⟩
    apply nests_cons_of_shift h
    intro p hp
    obtain ⟨hopen, hclose⟩ := counts_close p
    omega

theorem nests_other_iff {depth : Nat} {c : Char} {cs : List Char} (hopen : c ≠ '{')
    (hclose : c ≠ '}') : Nests depth (c :: cs) ↔ Nests depth cs := by
  constructor
  · intro h
    apply nests_of_cons h
    intro p hp
    simpa [List.count_cons, hopen, hclose] using hp
  · intro h
    apply nests_cons_of_shift h
    intro p hp
    simpa [List.count_cons, hopen, hclose] using hp

namespace Group

theorem read_open (depth : Nat) (cs : List Char) :
    read depth ('{' :: cs) = (read (depth + 1) cs).cons '{' := rfl

theorem read_close_zero (cs : List Char) : read 0 ('}' :: cs) = ⟨[], some cs⟩ := rfl

theorem read_close_succ (depth : Nat) (cs : List Char) :
    read (depth + 1) ('}' :: cs) = (read depth cs).cons '}' := rfl

theorem read_other {c : Char} (hopen : c ≠ '{') (hclose : c ≠ '}') (depth : Nat)
    (cs : List Char) : read depth (c :: cs) = (read depth cs).cons c := by
  simp [read, hopen, hclose]

/-- A group that is never closed nests to its end. -/
theorem nests_text_of_unclosed {depth : Nat} {cs : List Char} (h : (read depth cs).rest = none) :
    Nests depth (read depth cs).text := by
  fun_induction read depth cs with
  | case1 depth => exact nests_nil depth
  | case2 depth cs ih => exact nests_open_iff.mpr (ih h)
  | case3 cs => simp at h
  | case4 cs depth hopen ih => exact nests_close_iff.mpr ⟨depth, rfl, ih h⟩
  | case5 depth c cs hopen hclose ih => exact (nests_other_iff hopen hclose).mpr (ih h)

/-- A group that is closed nests, and closes what was open when it was entered. -/
theorem nests_text_of_closed {depth : Nat} {cs rest : List Char}
    (h : (read depth cs).rest = some rest) :
    Nests depth (read depth cs).text ∧
      (read depth cs).text.count '{' + depth = (read depth cs).text.count '}' := by
  fun_induction read depth cs with
  | case1 depth => simp at h
  | case2 depth cs ih =>
    obtain ⟨hnests, hcount⟩ := ih h
    refine ⟨nests_open_iff.mpr hnests, ?_⟩
    obtain ⟨hopen, hclose⟩ := counts_open (read (depth + 1) cs).text
    simp only [cons]
    omega
  | case3 cs => exact ⟨nests_nil 0, by simp⟩
  | case4 cs depth hopen ih =>
    obtain ⟨hnests, hcount⟩ := ih h
    refine ⟨nests_close_iff.mpr ⟨depth, rfl, hnests⟩, ?_⟩
    obtain ⟨hopen, hclose⟩ := counts_close (read depth cs).text
    simp only [cons]
    omega
  | case5 depth c cs hopen hclose ih =>
    obtain ⟨hnests, hcount⟩ := ih h
    refine ⟨(nests_other_iff hopen hclose).mpr hnests, ?_⟩
    simpa [cons, List.count_cons, hopen, hclose] using hcount

private theorem brace_cases (c : Char) : c = '{' ∨ c = '}' ∨ (c ≠ '{' ∧ c ≠ '}') := by
  by_cases hopen : c = '{'
  · exact .inl hopen
  · by_cases hclose : c = '}'
    · exact .inr (.inl hclose)
    · exact .inr (.inr ⟨hopen, hclose⟩)

/-- Text that nests to its end is one group that is never closed. -/
theorem read_of_nests {depth : Nat} {cs : List Char} (h : Nests depth cs) :
    read depth cs = ⟨cs, none⟩ := by
  induction cs generalizing depth with
  | nil => rfl
  | cons c cs ih =>
    obtain rfl | rfl | ⟨hopen, hclose⟩ := brace_cases c
    · rw [read_open, ih (nests_open_iff.mp h)]
      rfl
    · obtain ⟨outer, rfl, hnests⟩ := nests_close_iff.mp h
      rw [read_close_succ, ih hnests]
      rfl
    · rw [read_other hopen hclose, ih ((nests_other_iff hopen hclose).mp h)]
      rfl

/-- The brace behind text that closes all that is open ends the group. -/
theorem read_append_close {depth : Nat} {text : List Char} (rest : List Char)
    (h : Nests depth text) (hcount : text.count '{' + depth = text.count '}') :
    read depth (text ++ '}' :: rest) = ⟨text, some rest⟩ := by
  -- The depth counts the braces that are open in front of what is left of the text.
  induction text generalizing depth with
  | nil =>
    obtain rfl : depth = 0 := by simpa using hcount
    exact read_close_zero rest
  | cons c text ih =>
    obtain rfl | rfl | ⟨hopen, hclose⟩ := brace_cases c
    · have hinner : text.count '{' + (depth + 1) = text.count '}' := by
        obtain ⟨hopen, hclose⟩ := counts_open text
        omega
      rw [List.cons_append, read_open, ih (nests_open_iff.mp h) hinner]
      rfl
    · obtain ⟨outer, rfl, hnests⟩ := nests_close_iff.mp h
      have hinner : text.count '{' + outer = text.count '}' := by
        obtain ⟨hopen, hclose⟩ := counts_close text
        omega
      rw [List.cons_append, read_close_succ, ih hnests hinner]
      rfl
    · have hinner : text.count '{' + depth = text.count '}' := by
        simpa [List.count_cons, hopen, hclose] using hcount
      rw [List.cons_append, read_other hopen hclose,
        ih ((nests_other_iff hopen hclose).mp h) hinner]
      rfl

end Group

namespace OptionGroups

/-- What makes groups the ones that stand in front of `rest`: those that are closed are balanced,
one that is not closed nests and has nothing behind it, and no further group follows. -/
structure Fits (g : OptionGroups) (rest : List Char) : Prop where
  balanced : ∀ text ∈ g.closed, Balanced text
  unclosed : ∀ text, g.unclosed = some text → Nests 0 text ∧ rest = []
  maximal : ∀ c ∈ rest.head?, c ≠ '{'

theorem eq_open_of_mem_head?_source {g : OptionGroups} {c : Char} (hc : c ∈ g.source.head?) :
    c = '{' := by
  obtain ⟨closed, unclosed⟩ := g
  cases closed with
  | nil =>
    cases unclosed with
    | none => simp [source] at hc
    | some text => simpa [source, eq_comm] using hc
  | cons text closed => simpa [source, eq_comm] using hc

theorem fits_read (cs : List Char) : (read cs).1.Fits (read cs).2 := by
  fun_induction read cs with
  | case1 => exact ⟨by simp, by simp, by simp⟩
  | case2 body hrest =>
    refine ⟨by simp, ?_, by simp⟩
    rintro text ⟨⟩
    exact ⟨Group.nests_text_of_unclosed hrest, rfl⟩
  | case3 body rest hrest ih =>
    refine ⟨?_, ih.unclosed, ih.maximal⟩
    intro text htext
    rcases List.mem_cons.mp htext with rfl | htext
    · exact Group.nests_text_of_closed hrest
    · exact ih.balanced text htext
  | case4 c body hc => exact ⟨by simp, by simp, by simpa using hc⟩

/-- Groups that are all closed still fit when text is added that cannot open another. -/
theorem Fits.append {g : OptionGroups} {rest added : List Char} (h : g.Fits rest)
    (hclosed : g.unclosed = none) (hadded : ∀ c ∈ added.head?, c ≠ '{') :
    g.Fits (rest ++ added) := by
  refine ⟨h.balanced, ?_, ?_⟩
  · intro text htext
    rw [hclosed] at htext
    cases htext
  · intro c hc
    cases rest with
    | nil => exact hadded c hc
    | cons d rest => exact h.maximal c hc

theorem read_of_head_ne {rest : List Char} (h : ∀ c ∈ rest.head?, c ≠ '{') :
    read rest = ({}, rest) := by
  cases rest with
  | nil => rw [read]
  | cons c rest =>
    have hc : c ≠ '{' := h c rfl
    rw [read, if_neg hc]

theorem read_cons_open {body text rest : List Char} (h : Group.read 0 body = ⟨text, some rest⟩) :
    read ('{' :: body) = ((read rest).1.cons text, (read rest).2) := by
  rw [read, if_pos rfl]
  split
  · rename_i hrest
    simp [h] at hrest
  · rename_i rest' hrest
    rw [h] at hrest ⊢
    obtain rfl := Option.some.inj hrest
    rfl

theorem read_cons_unclosed {body text : List Char} (h : Group.read 0 body = ⟨text, none⟩) :
    read ('{' :: body) = ({ unclosed := some text }, []) := by
  rw [read, if_pos rfl]
  split
  · rw [h]
  · rename_i hrest
    simp [h] at hrest

theorem read_source_append {g : OptionGroups} {rest : List Char} (h : g.Fits rest) :
    read (g.source ++ rest) = (g, rest) := by
  obtain ⟨closed, unclosed⟩ := g
  induction closed with
  | nil =>
    cases unclosed with
    | none => exact read_of_head_ne h.maximal
    | some text =>
      obtain ⟨hnests, rfl⟩ := h.unclosed text rfl
      have hgroup := Group.read_of_nests hnests
      simpa [source] using read_cons_unclosed hgroup
  | cons text closed ih =>
    have hinner := ih ⟨fun t ht => h.balanced t (List.mem_cons_of_mem _ ht), h.unclosed, h.maximal⟩
    obtain ⟨hnests, hcount⟩ := h.balanced text List.mem_cons_self
    have hgroup := Group.read_append_close
      (source ⟨closed, unclosed⟩ ++ rest) hnests (by simpa using hcount)
    have hread := read_cons_open hgroup
    rw [hinner] at hread
    simpa [source, cons] using hread

end OptionGroups

end LogLayout.Pattern
