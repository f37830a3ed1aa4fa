/-! # Tables of character ranges -/

namespace StatusReport.Text

/-- Consecutive code points, both ends included. -/
structure Range where
  first : Nat
  last : Nat
deriving DecidableEq, Repr

def inRanges (ranges : List Range) (c : Char) : Bool :=
  ranges.any fun r => r.first ≤ c.toNat ∧ c.toNat ≤ r.last

end StatusReport.Text
