import DottedNames.Proofs.Splitting

set_option autoImplicit false

namespace DottedNames

namespace Dialect

variable {dialect : Dialect}

/-- The last segment of the first text was read at its end there and is now followed by a separator.
This makes no difference as long as more text comes behind the separator. -/
theorem reads_append_separator {first second : Text} {segments : List Text}
    (read : dialect.split first = .ok segments) (filled : segments ≠ [])
    (joined : [separator].intercalate segments = first) (more : second ≠ []) :
    dialect.Reads (first ++ separator :: second) segments second := by
  rw [← joined, Text.intercalate_append_separator filled]
  exact reads_terminated_append (isSegment_of_split read) fun empty => absurd empty more

/-- A text that is its segments joined, with a separator and more text behind it, splits into these
segments and those of the text behind. If that text is malformed, so is the whole, for the same
reason, and the segments in front are recovered as well. -/
theorem split_append_separator {first second : Text} {segments : List Text}
    (read : dialect.split first = .ok segments) (filled : segments ≠ [])
    (joined : [separator].intercalate segments = first) (more : second ≠ []) :
    (∀ later, dialect.split second = .ok later →
        dialect.split (first ++ separator :: second) = .ok (segments ++ later)) ∧
      ∀ error, dialect.split second = .error error →
        dialect.split (first ++ separator :: second) =
          .error ⟨first ++ separator :: second, error.cause, segments ++ error.recovered⟩ := by
  have reads := reads_append_separator read filled joined more
  exact ⟨fun _ success => reads.split_eq_append success,
    fun _ failed => reads.split_eq_error failed⟩

/-- The first text ends in a quoted segment that holds a separator, and the second one starts with
an empty segment. One second text splits, and the other one is malformed at its end. -/
theorem split_append_quoted_and_bare :
    let dialect : Dialect := {}
    let first := ['a', '.', '"', '.', '"']
    dialect.split (first ++ separator :: ['.', 'b']) =
        .ok [['a'], ['"', '.', '"'], [], ['b']] ∧
      dialect.split (first ++ separator :: ['.', '"', 'b']) =
        .error ⟨['a', '.', '"', '.', '"', '.', '.', '"', 'b'], .unterminatedQuote,
          [['a'], ['"', '.', '"'], [], ['"', 'b']]⟩ := by
  intro dialect first
  have read : dialect.split first = .ok [['a'], ['"', '.', '"']] := by cbv
  have later : dialect.split ['.', 'b'] = .ok [[], ['b']] := by cbv
  have failed : dialect.split ['.', '"', 'b'] =
      .error ⟨['.', '"', 'b'], .unterminatedQuote, [[], ['"', 'b']]⟩ := by cbv
  exact ⟨(split_append_separator read (List.cons_ne_nil _ _) rfl (List.cons_ne_nil _ _)).1 _ later,
    (split_append_separator read (List.cons_ne_nil _ _) rfl (List.cons_ne_nil _ _)).2 _ failed⟩

end Dialect

end DottedNames
