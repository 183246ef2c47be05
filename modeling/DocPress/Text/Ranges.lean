import DocPress.Text.Basic

namespace DocPress

/-- The first and the last code point of each range. -/
abbrev Ranges := List (Nat × Nat)

def Ranges.contains (ranges : Ranges) (c : CodePoint) : Bool :=
  ranges.any fun (first, last) => first ≤ c.val && c.val ≤ last

end DocPress
