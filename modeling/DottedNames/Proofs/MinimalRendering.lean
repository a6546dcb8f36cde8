import DottedNames.Proofs.RoundTrip

set_option autoImplicit false

namespace DottedNames

namespace Text

theorem isSimplePart_of_mem {value : Text} (simple : isSimpleName value = true) {c : Char}
    (member : c ∈ value) : isSimplePart c = true := by
  cases value with
  | nil => exact nomatch member
  | cons first rest =>
      obtain ⟨start, parts⟩ := isSimpleName_cons_iff.mp simple
      rcases List.mem_cons.mp member with rfl | member
      · simp only [isSimpleStart, Char.isAlphanum, isSimplePart, Bool.or_eq_true] at start ⊢
        exact start.imp_left .inl
      · exact parts c member

theorem separator_not_mem_of_isSimpleName {value : Text} (simple : isSimpleName value = true) :
    separator ∉ value := by
  intro member
  have part := isSimplePart_of_mem simple member
  exact absurd part (by decide)

theorem eq_nil_of_separator_not_mem {before more after : Text}
    (free : separator ∉ before ++ more) (ends : ∀ c ∈ (more ++ after).head?, c = separator) :
    more = [] := by
  cases more with
  | nil => rfl
  | cons c more =>
      obtain rfl := ends c rfl
      exact absurd (List.mem_append_right before List.mem_cons_self) free

/-- Two texts without separators are the same if the same text starts with both of them and each
ends there at a separator or with the text. -/
theorem eq_of_append_eq {first second front back : Text} (free : separator ∉ first)
    (alsoFree : separator ∉ second) (frontEnds : ∀ c ∈ front.head?, c = separator)
    (backEnds : ∀ c ∈ back.head?, c = separator) (same : first ++ front = second ++ back) :
    first = second := by
  rcases List.append_eq_append_iff.mp same with ⟨more, rfl, rfl⟩ | ⟨more, rfl, rfl⟩
  · rw [eq_nil_of_separator_not_mem alsoFree frontEnds, List.append_nil]
  · rw [eq_nil_of_separator_not_mem free backEnds, List.append_nil]

/-- A joined text starts with its first segment, which ends there at a separator or with the text.
-/
theorem intercalate_cons (raw : Text) (segments : List Text) :
    ∃ tail, [separator].intercalate (raw :: segments) = raw ++ tail ∧
      ∀ c ∈ tail.head?, c = separator := by
  cases segments with
  | nil =>
      refine ⟨[], ?_, fun _ member => nomatch member⟩
      rw [List.intercalate_singleton, List.append_nil]
  | cons next segments =>
      refine ⟨separator :: [separator].intercalate (next :: segments), ?_, ?_⟩
      · rw [List.intercalate_cons_cons, List.append_assoc, List.singleton_append]
      · intro c member
        cases member
        rfl

end Text

namespace Dialect

variable (dialect : Dialect)

/-- A simple name in which a quote stands in front or right behind another one. -/
def Clashes (value : Text) : Prop :=
  Text.isSimpleName value = true ∧
    (value.head? = some dialect.quote ∨ [dialect.quote, dialect.quote] <:+: value)

instance (value : Text) : Decidable (dialect.Clashes value) :=
  inferInstanceAs (Decidable (_ ∧ (_ ∨ _)))

theorem renderSegment_of_isSimpleName {value : Text} (simple : Text.isSimpleName value = true) :
    dialect.renderSegment value .minimal = value := if_pos simple

theorem renderSegment_of_not_isSimpleName {value : Text}
    (other : ¬ Text.isSimpleName value = true) :
    dialect.renderSegment value .minimal = dialect.renderSegment value .quoted := if_neg other

theorem isFaithful_minimal_iff {value : Text} :
    dialect.IsFaithful value .minimal ↔ ¬ dialect.Clashes value := by
  by_cases simple : Text.isSimpleName value = true
  · have free := Text.separator_not_mem_of_isSimpleName simple
    unfold IsFaithful
    rw [dialect.renderSegment_of_isSimpleName simple,
      dialect.isSegment_and_decodeSegment_eq_self_iff]
    simp only [Clashes, IsBare, simple, free, not_false_eq_true, true_and, not_or, ne_eq]
  · unfold IsFaithful
    rw [dialect.renderSegment_of_not_isSimpleName simple]
    exact iff_of_true (dialect.isFaithful_quoted value) fun clash => simple clash.1

theorem renderSegment_minimal_ne_nil (value : Text) :
    dialect.renderSegment value .minimal ≠ [] := by
  by_cases simple : Text.isSimpleName value = true
  · rw [dialect.renderSegment_of_isSimpleName simple]
    intro empty
    rw [empty] at simple
    cases simple
  · rw [dialect.renderSegment_of_not_isSimpleName simple]
    exact List.cons_ne_nil _ _

/-- A text that splits starts with its first segment, which ends there at a separator or with the
text. -/
theorem exists_tail_of_split {text raw : Text} {segments : List Text}
    (read : dialect.split text = .ok (raw :: segments)) :
    dialect.IsSegment raw ∧ ∃ tail, text = raw ++ tail ∧ ∀ c ∈ tail.head?, c = separator := by
  rcases split_eq_ok_cons read with ends | ⟨rest, opens, _⟩
  · cases ends with
    | segment _ segment =>
        exact ⟨segment, [], (List.append_nil text).symm, fun _ member => nomatch member⟩
  · obtain ⟨whole, segment, _⟩ := opens_separated_iff.mp opens
    refine ⟨segment, separator :: rest, whole, ?_⟩
    intro c member
    cases member
    rfl

theorem separator_not_mem_of_decodeSegment {raw : Text} (segment : dialect.IsSegment raw)
    (free : separator ∉ dialect.decodeSegment raw) : separator ∉ raw := by
  rcases segment with bare | quoted
  · exact bare.1
  · rw [dialect.isQuoted_iff.mp quoted]
    exact fun member => free ((mem_quoteSegment dialect dialect.quote_ne_separator.symm).mp member)

/-- If the first level of a text is read back, it was written faithfully. A simple name has no
separator to hide in a quoted segment, so its written form is the segment that was read. -/
theorem isFaithful_of_split {value raw : Text} {values segments : List Text}
    (read : dialect.split ([separator].intercalate
      (dialect.renderSegment value .minimal :: values)) = .ok (raw :: segments))
    (decoded : dialect.decodeSegment raw = value) : dialect.IsFaithful value .minimal := by
  by_cases simple : Text.isSimpleName value = true
  · have free := Text.separator_not_mem_of_isSimpleName simple
    obtain ⟨segment, tail, whole, tailEnds⟩ := dialect.exists_tail_of_split read
    obtain ⟨rest, joined, restEnds⟩ :=
      Text.intercalate_cons (dialect.renderSegment value .minimal) values
    -- What was read stands for the simple name, so it holds no separator even if it is quoted.
    have rawFree : separator ∉ raw := by
      apply dialect.separator_not_mem_of_decodeSegment segment
      rw [decoded]
      exact free
    rw [dialect.renderSegment_of_isSimpleName simple] at joined whole
    have same := Text.eq_of_append_eq rawFree free tailEnds restEnds (whole.symm.trans joined)
    subst same
    unfold IsFaithful
    rw [dialect.renderSegment_of_isSimpleName simple]
    exact ⟨segment, decoded⟩
  · unfold IsFaithful
    rw [dialect.renderSegment_of_not_isSimpleName simple]
    exact dialect.isFaithful_quoted value

theorem intercalate_minimal_ne_nil (value : Text) (values : List Text) :
    [separator].intercalate ((value :: values).map (dialect.renderSegment · .minimal)) ≠ [] := by
  obtain ⟨tail, joined, _⟩ := Text.intercalate_cons (dialect.renderSegment value .minimal)
    (values.map (dialect.renderSegment · .minimal))
  rw [List.map_cons, joined]
  exact List.append_ne_nil_of_left_ne_nil (dialect.renderSegment_minimal_ne_nil value) tail

theorem split_of_isFaithful {value next raw : Text} {values segments : List Text}
    (faithful : dialect.IsFaithful value .minimal)
    (read : dialect.split ([separator].intercalate
      ((value :: next :: values).map (dialect.renderSegment · .minimal))) =
        .ok (raw :: segments)) :
    dialect.split ([separator].intercalate
      ((next :: values).map (dialect.renderSegment · .minimal))) = .ok segments := by
  have filled := dialect.intercalate_minimal_ne_nil next values
  have whole : [separator].intercalate ((value :: next :: values).map
      (dialect.renderSegment · .minimal)) = dialect.renderSegment value .minimal ++ separator ::
        [separator].intercalate ((next :: values).map (dialect.renderSegment · .minimal)) := by
    rw [List.map_cons, List.map_cons, List.intercalate_cons_cons, List.append_assoc,
      List.singleton_append]
  have written := opens_separated_iff.mpr
    ⟨whole, faithful.1, fun empty => absurd empty filled⟩
  rcases split_eq_ok_cons read with ends | ⟨rest, opens, later⟩
  · cases written.unique (.ends ends)
  · cases written.unique opens
    exact later

/-- If all levels are read back, each of them was written faithfully. -/
theorem isFaithful_of_read_back {values segments : List Text}
    (read : dialect.split ([separator].intercalate
      (values.map (dialect.renderSegment · .minimal))) = .ok segments)
    (back : values <+: segments.map dialect.decodeSegment) :
    ∀ value ∈ values, dialect.IsFaithful value .minimal := by
  induction values generalizing segments with
  | nil => exact List.forall_mem_nil _
  | cons value values ih =>
      cases segments with
      | nil => exact nomatch List.prefix_nil.mp back
      | cons raw segments =>
          obtain ⟨decoded, back⟩ := List.cons_prefix_cons.mp back
          have faithful := dialect.isFaithful_of_split read decoded.symm
          refine List.forall_mem_cons.mpr ⟨faithful, ?_⟩
          cases values with
          | nil => exact List.forall_mem_nil _
          | cons next values => exact ih (dialect.split_of_isFaithful faithful read) back

theorem tryParse_render_minimal {name : QualifiedName}
    (apart : ∀ value ∈ name.segments, ¬ dialect.Clashes value) :
    dialect.tryParse (dialect.render name .minimal) = .ok (.ofSegments name.segments) :=
  dialect.tryParse_render
    (fun value member => dialect.isFaithful_minimal_iff.mpr (apart value member))
    fun value _ => dialect.renderSegment_minimal_ne_nil value

theorem not_clashes_of_tryParse {name : QualifiedName}
    (read : dialect.tryParse (dialect.render name .minimal) = .ok (.ofSegments name.segments)) :
    ∀ value ∈ name.segments, ¬ dialect.Clashes value := by
  obtain ⟨raw, split, back⟩ := dialect.exists_split_of_read_back read
  intro value member
  exact dialect.isFaithful_minimal_iff.mp (dialect.isFaithful_of_read_back split back value member)

/-- No simple name clashes with a quote that may not stand in one. -/
theorem not_clashes_of_not_isSimplePart (outside : Text.isSimplePart dialect.quote = false)
    (value : Text) : ¬ dialect.Clashes value := by
  intro clashes
  obtain ⟨simple, clash⟩ := clashes
  have member : dialect.quote ∈ value := by
    rcases clash with head | pair
    · exact List.mem_of_head? head
    · exact pair.subset List.mem_cons_self
  rw [Text.isSimplePart_of_mem simple member] at outside
  cases outside

/-- A name is read back from its minimal form exactly if none of its levels clashes with the quote.
No level does if the quote cannot stand in a simple name, and one that does makes the text malformed
or the text of another name. -/
theorem tryParse_render_minimal_iff (name : QualifiedName) :
    (dialect.tryParse (dialect.render name .minimal) = .ok (.ofSegments name.segments) ↔
        ∀ value ∈ name.segments, ¬ dialect.Clashes value) ∧
      (Text.isSimplePart dialect.quote = false →
        dialect.tryParse (dialect.render name .minimal) = .ok (.ofSegments name.segments)) ∧
      ∀ value ∈ name.segments, dialect.Clashes value →
        (∃ error, dialect.tryParse (dialect.render name .minimal) = .error error) ∨
          ∃ other, other ≠ .ofSegments name.segments ∧
            dialect.tryParse (dialect.render name .minimal) = .ok other := by
  refine ⟨⟨dialect.not_clashes_of_tryParse, dialect.tryParse_render_minimal⟩, ?_, ?_⟩
  · intro outside
    exact dialect.tryParse_render_minimal fun value _ =>
      dialect.not_clashes_of_not_isSimplePart outside value
  · intro value member clash
    cases read : dialect.tryParse (dialect.render name .minimal) with
    | error error => exact .inl ⟨error, rfl⟩
    | ok other =>
        refine .inr ⟨other, ?_, rfl⟩
        intro same
        rw [same] at read
        exact dialect.not_clashes_of_tryParse read value member clash

/-- With the letter `a` as its quote, a dialect takes the simple name `ab` for a quote left open. -/
theorem letter_quote_clashes :
    let dialect : Dialect := { quote := 'a' }
    let name : QualifiedName := { database := some ['a', 'b'] }
    dialect.Clashes ['a', 'b'] ∧
      ((∃ error, dialect.tryParse (dialect.render name .minimal) = .error error) ∨
        ∃ other, other ≠ .ofSegments name.segments ∧
          dialect.tryParse (dialect.render name .minimal) = .ok other) := by
  refine ⟨by decide, ?_⟩
  exact (tryParse_render_minimal_iff _ _).2.2 ['a', 'b'] (by decide) (by decide)

end Dialect

end DottedNames
