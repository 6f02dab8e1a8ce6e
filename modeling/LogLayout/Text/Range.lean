namespace LogLayout.Text

/-- Whether a code point is in one of some ranges, ends included. -/
def inRanges (ranges : List (Nat × Nat)) (n : Nat) : Bool :=
  ranges.any fun r => r.1 ≤ n && n ≤ r.2

end LogLayout.Text
