/-!
# Ranges of code points

Properties of characters are given as ascending lists of disjoint ranges.
-/

namespace EpsBridge.Text

/-- The first and the last code point of a range. -/
abbrev CodeRange := Nat × Nat

/-- Whether some range of an ascending list holds a character. -/
def covers : List CodeRange → Char → Bool
  | [], _ => false
  | (first, last) :: rest, c =>
    if c.toNat < first then false
    else if c.toNat ≤ last then true
    else covers rest c

end EpsBridge.Text
