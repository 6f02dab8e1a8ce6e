import LogLayout.Proofs.Pattern.Escape
import LogLayout.Proofs.Pattern.Refusal

namespace LogLayout.Pattern

theorem IsNameOf.isAlpha_of_mem {isName : List Char → Bool} {cs name : List Char}
    (h : IsNameOf isName (cs.takeWhile Char.isAlpha) name) {c : Char} (hc : c ∈ name) :
    c.isAlpha = true := by
  cases h with
  | registered _ leads _ _ => exact List.mem_takeWhile_imp (leads.subset hc)
  | unknown all _ =>
    rw [all] at hc
    exact List.mem_takeWhile_imp hc

/-- Two texts that a specifier with a name cannot tell apart when they stand behind it: they start
with the same character and with the same letters. -/
structure SameStart (cs ds : List Char) : Prop where
  head : cs.head? = ds.head?
  letters : cs.takeWhile Char.isAlpha = ds.takeWhile Char.isAlpha

namespace SameStart

theorem refl (cs : List Char) : SameStart cs cs := ⟨rfl, rfl⟩

theorem append {cs ds : List Char} (h : SameStart cs ds) (lead : List Char) :
    SameStart (lead ++ cs) (lead ++ ds) := by
  refine ⟨?_, ?_⟩
  · rw [List.head?_append, List.head?_append, h.head]
  · rw [List.takeWhile_append, List.takeWhile_append, h.letters]

end SameStart

variable {registry : Registry}

namespace Token

end Token

end LogLayout.Pattern
