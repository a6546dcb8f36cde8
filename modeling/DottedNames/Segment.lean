import DottedNames.Dialect

set_option autoImplicit false

namespace DottedNames

namespace Dialect

variable (dialect : Dialect)

def doubleQuotes : Text → Text
  | [] => []
  | c :: rest =>
      if c = dialect.quote then c :: c :: doubleQuotes rest else c :: doubleQuotes rest

/-- Makes one quote of every pair of quotes, read from the left. -/
def undoubleQuotes : Text → Text
  | [] => []
  | [c] => [c]
  | c :: next :: rest =>
      if c = dialect.quote ∧ next = dialect.quote then c :: undoubleQuotes rest
      else c :: undoubleQuotes (next :: rest)

def quoteSegment (value : Text) : Text :=
  dialect.quote :: dialect.doubleQuotes value ++ [dialect.quote]

/-- Takes away a quote at both ends. A text that lacks either one, or has one character only,
stays as it is. -/
def stripQuotes : Text → Text
  | [] => []
  | first :: rest =>
      if first = dialect.quote ∧ rest.getLast? = some dialect.quote then rest.dropLast
      else first :: rest

/-- The value that a raw segment stands for. Doubled quotes count as one in bare segments too. -/
def decodeSegment (raw : Text) : Text :=
  dialect.undoubleQuotes (dialect.stripQuotes raw)

/-- What stands before and after the first quote of a body that is not half of a doubled pair. -/
def cutAtClosing? : Text → Option (Text × Text)
  | [] => none
  | [c] => if c = dialect.quote then some ([], []) else none
  | c :: next :: rest =>
      if c ≠ dialect.quote then
        (cutAtClosing? (next :: rest)).map fun (inner, tail) => (c :: inner, tail)
      else if next = dialect.quote then
        (cutAtClosing? rest).map fun (inner, tail) => (c :: next :: inner, tail)
      else some ([], next :: rest)

/-- The position of the quote that ends a quoted body, in bytes of UTF-8. -/
def closingOffset? (body : Text) : Option Nat :=
  (dialect.cutAtClosing? body).map fun (inner, _) => Text.utf8Length inner

/-- A bare segment holds no separator and does not start with a quote. -/
def IsBare (raw : Text) : Prop := separator ∉ raw ∧ raw.head? ≠ some dialect.quote

/-- Text in which quotes stand in pairs only. -/
inductive Paired : Text → Prop where
  | nil : Paired []
  | plain {c : Char} {rest : Text} : c ≠ dialect.quote → Paired rest → Paired (c :: rest)
  | pair {rest : Text} : Paired rest → Paired (dialect.quote :: dialect.quote :: rest)

/-- A quoted segment stands between two quotes and has paired quotes inside. -/
def IsQuoted (raw : Text) : Prop :=
  ∃ inner, dialect.Paired inner ∧ raw = dialect.quote :: inner ++ [dialect.quote]

@[simp] theorem doubleQuotes_nil : dialect.doubleQuotes [] = [] := rfl

@[simp] theorem undoubleQuotes_doubleQuotes (value : Text) :
    dialect.undoubleQuotes (dialect.doubleQuotes value) = value := by
  induction value with
  | nil => rfl
  | cons c rest ih =>
      by_cases mark : c = dialect.quote
      · simp [doubleQuotes, undoubleQuotes, mark, ih]
      · simp only [doubleQuotes, mark, ↓reduceIte]
        cases doubled : dialect.doubleQuotes rest with
        | nil => rw [doubled] at ih; simp [undoubleQuotes, ← ih]
        | cons next after => rw [doubled] at ih; simp [undoubleQuotes, mark, ih]

@[simp] theorem stripQuotes_quoteSegment (value : Text) :
    dialect.stripQuotes (dialect.quoteSegment value) = dialect.doubleQuotes value := by
  simp [quoteSegment, stripQuotes]

@[simp] theorem decodeSegment_quoteSegment (value : Text) :
    dialect.decodeSegment (dialect.quoteSegment value) = value := by
  simp [decodeSegment]

theorem cutAtClosing?_eq_some {body inner tail : Text}
    (cut : dialect.cutAtClosing? body = some (inner, tail)) :
    body = inner ++ dialect.quote :: tail := by
  fun_induction cutAtClosing? dialect body generalizing inner with
  | case1 => simp at cut
  | case2 => simp_all
  | case3 => simp at cut
  | case4 c next rest plain ih =>
      obtain ⟨⟨front, back⟩, found, same⟩ := Option.map_eq_some_iff.1 cut
      simp only [Prod.mk.injEq] at same
      obtain ⟨rfl, rfl⟩ := same
      simp [ih found]
  | case5 c rest mark ih =>
      obtain ⟨⟨front, back⟩, found, same⟩ := Option.map_eq_some_iff.1 cut
      simp only [Prod.mk.injEq] at same
      obtain ⟨rfl, rfl⟩ := same
      simp [ih found]
  | case6 c next rest mark other =>
      simp_all

end Dialect

end DottedNames
