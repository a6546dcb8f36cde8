import DottedNames.Text

set_option autoImplicit false

namespace DottedNames

namespace Text

def isSimpleStart (c : Char) : Bool := c.isAlpha || c = '_'

def isSimplePart (c : Char) : Bool := c.isAlphanum || c = '_'

/-- Only letters of ASCII count, and the quote of a dialect does not. -/
def isSimpleName : Text → Bool
  | [] => false
  | first :: rest => isSimpleStart first && rest.all isSimplePart

theorem isSimpleName_cons_iff {first : Char} {rest : Text} :
    isSimpleName (first :: rest) = true ↔
      isSimpleStart first = true ∧ ∀ c ∈ rest, isSimplePart c = true := by
  simp [isSimpleName]

end Text

end DottedNames
