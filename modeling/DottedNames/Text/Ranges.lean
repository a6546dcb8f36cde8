set_option autoImplicit false

namespace DottedNames

namespace Text

/-- Whether a code point lies in one of the ranges, ends included. The search ends at the first
range that starts behind the code point. -/
def inRanges : List (Nat × Nat) → Nat → Bool
  | [], _ => false
  | (first, last) :: rest, code => first ≤ code && (code ≤ last || inRanges rest code)

end Text

end DottedNames
