set_option autoImplicit false

namespace ShareCheck.Text

/-- Code points, as closed intervals. -/
abbrev Ranges := List (Nat × Nat)

def Ranges.has (ranges : Ranges) (c : Char) : Bool :=
  ranges.any fun (first, last) => first ≤ c.toNat && c.toNat ≤ last

end ShareCheck.Text
