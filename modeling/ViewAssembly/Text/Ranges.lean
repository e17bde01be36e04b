/-!
# Ranges of code points

A class of characters is given by the runs of consecutive code points that it consists of.
-/

namespace ViewAssembly.Text

/-- Runs of consecutive code points, each by its first and its last. -/
abbrev Ranges := Array (Nat × Nat)

/-- Does one of the runs hold this code point? -/
def Ranges.contain (rs : Ranges) (n : Nat) : Bool := rs.any fun r => r.1 ≤ n && n ≤ r.2

end ViewAssembly.Text
