namespace LogLayout

/-- One configured layout. -/
structure LayoutConfig where
  id : String
  pattern : String
  description : Option String := none
  deriving DecidableEq, Repr

/-- A configuration: layouts in the order in which they are written. -/
structure Config where
  layouts : List LayoutConfig := []
  deriving DecidableEq, Repr

end LogLayout
