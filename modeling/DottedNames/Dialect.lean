import DottedNames.Text

set_option autoImplicit false

namespace DottedNames

abbrev separator : Char := '.'

structure Dialect where
  quote : Char := '"'
  quote_ne_separator : quote ≠ separator := by decide
deriving DecidableEq

inductive DialectError where
  | quoteIsSeparator (quote : Char)
deriving DecidableEq

def DialectError.message : DialectError → Text
  | .quoteIsSeparator quote =>
      "quote character `".toList ++ quote :: "` cannot be the separator `.`".toList

namespace Dialect

instance : Inhabited Dialect := ⟨{}⟩

def ofQuote (quote : Char) : Except DialectError Dialect :=
  if same : quote = separator then .error (.quoteIsSeparator quote)
  else .ok { quote, quote_ne_separator := same }

theorem ofQuote_quote (dialect : Dialect) : ofQuote dialect.quote = .ok dialect := by
  simp [ofQuote, dialect.quote_ne_separator]

theorem eq_of_quote_eq {first second : Dialect} (same : first.quote = second.quote) :
    first = second := by
  cases first
  cases second
  cases same
  rfl

theorem ofQuote_eq_ok_iff {quote : Char} {dialect : Dialect} :
    ofQuote quote = .ok dialect ↔ dialect.quote = quote := by
  constructor
  · intro made
    by_cases refused : quote = separator
    · simp only [ofQuote, refused, ↓reduceDIte] at made
      cases made
    · simp only [ofQuote, refused, ↓reduceDIte] at made
      cases made
      rfl
  · rintro rfl
    exact ofQuote_quote dialect

end Dialect

end DottedNames
