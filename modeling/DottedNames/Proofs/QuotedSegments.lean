import DottedNames.Proofs.Splitting
import Mathlib.Data.List.TFAE
import Mathlib.Tactic.TFAE

set_option autoImplicit false

namespace DottedNames

namespace Dialect

variable {dialect : Dialect}

theorem IsQuoted.head?_eq {raw : Text} (quoted : dialect.IsQuoted raw) :
    raw.head? = some dialect.quote := by
  obtain ⟨inner, _, rfl⟩ := quoted
  rfl

/-- The quote that closes a quoted segment is its last character, so no more than it is split off.
-/
theorem IsQuoted.split_eq {raw : Text} (quoted : dialect.IsQuoted raw) :
    dialect.split raw = .ok [raw] := by
  have filled : [raw].getLast? ≠ some [] := by
    intro empty
    have nothing : raw = [] := Option.some.inj empty
    have head := quoted.head?_eq
    rw [nothing] at head
    cases head
  have segment : ∀ each ∈ [raw], dialect.IsSegment each :=
    List.forall_mem_singleton.mpr (.inr quoted)
  have alone := split_join segment filled
  rwa [List.intercalate_singleton] at alone

theorem isQuoted_iff_split {raw : Text} :
    dialect.IsQuoted raw ↔ raw.head? = some dialect.quote ∧ dialect.split raw = .ok [raw] := by
  constructor
  · intro quoted
    exact ⟨quoted.head?_eq, quoted.split_eq⟩
  · intro alone
    obtain ⟨head, read⟩ := alone
    have segment := isSegment_of_split read raw (List.mem_singleton_self raw)
    exact segment.isQuoted head

variable (dialect)

/-- A text survives decoding and quoting exactly if it is the quoted form of some value, and exactly
if it starts with a quote and is split into itself alone. A value always survives quoting and
decoding. -/
theorem quoted_segment_tfae (raw : Text) :
    [dialect.quoteSegment (dialect.decodeSegment raw) = raw,
      ∃ value, raw = dialect.quoteSegment value,
      raw.head? = some dialect.quote ∧ dialect.split raw = .ok [raw]].TFAE ∧
    ∀ value, dialect.decodeSegment (dialect.quoteSegment value) = value := by
  refine ⟨?_, dialect.decodeSegment_quoteSegment⟩
  tfae_have 1 → 2 := by
    intro kept
    exact ⟨dialect.decodeSegment raw, kept.symm⟩
  tfae_have 2 → 3 := by
    intro written
    obtain ⟨value, rfl⟩ := written
    exact isQuoted_iff_split.mp (dialect.isQuoted_quoteSegment value)
  tfae_have 3 → 1 := by
    intro alone
    have quoted := isQuoted_iff_split.mpr alone
    exact (dialect.isQuoted_iff.mp quoted).symm
  tfae_finish

-- Three quotes have a quote at both ends, but the second one makes a pair with the third.
example : (default : Dialect).decodeSegment ['"', '"', '"'] = ['"'] ∧
    (default : Dialect).split ['"', '"', '"'] =
      .error ⟨['"', '"', '"'], .unterminatedQuote, [['"', '"', '"']]⟩ := by cbv

end Dialect

end DottedNames
