import DottedNames.Segment

set_option autoImplicit false

namespace DottedNames

namespace Dialect

variable (dialect : Dialect)

theorem head?_nil_ne : ([] : Text).head? ≠ some dialect.quote := fun head => nomatch head

theorem head?_cons_ne_iff {c : Char} {rest : Text} :
    (c :: rest).head? ≠ some dialect.quote ↔ c ≠ dialect.quote := by
  rw [List.head?_cons, ne_eq, Option.some.injEq]

theorem doubleQuotes_cons_of_ne {c : Char} (plain : c ≠ dialect.quote) (rest : Text) :
    dialect.doubleQuotes (c :: rest) = c :: dialect.doubleQuotes rest := by
  simp only [doubleQuotes, plain, ↓reduceIte]

theorem doubleQuotes_cons_quote (rest : Text) :
    dialect.doubleQuotes (dialect.quote :: rest) =
      dialect.quote :: dialect.quote :: dialect.doubleQuotes rest := by
  simp only [doubleQuotes, ↓reduceIte]

theorem mem_doubleQuotes {c : Char} {value : Text} :
    c ∈ dialect.doubleQuotes value ↔ c ∈ value := by
  induction value with
  | nil => rfl
  | cons first rest ih =>
      by_cases mark : first = dialect.quote
      · subst mark
        simp only [doubleQuotes_cons_quote, List.mem_cons, ih, or_self_left]
      · simp only [doubleQuotes_cons_of_ne dialect mark, List.mem_cons, ih]

theorem length_le_length_doubleQuotes (value : Text) :
    value.length ≤ (dialect.doubleQuotes value).length := by
  induction value with
  | nil => exact Nat.le_refl _
  | cons first rest ih =>
      by_cases mark : first = dialect.quote
      · subst mark
        simp only [doubleQuotes_cons_quote, List.length_cons]
        omega
      · simp only [doubleQuotes_cons_of_ne dialect mark, List.length_cons]
        omega

theorem mem_quoteSegment {c : Char} (plain : c ≠ dialect.quote) {value : Text} :
    c ∈ dialect.quoteSegment value ↔ c ∈ value := by
  simp only [quoteSegment, List.cons_append, List.mem_cons, List.mem_append, List.not_mem_nil,
    plain, mem_doubleQuotes, or_false, false_or]

theorem quoteSegment_ne_self (value : Text) : dialect.quoteSegment value ≠ value := by
  intro same
  have longer := congrArg List.length same
  have doubled := dialect.length_le_length_doubleQuotes value
  simp only [quoteSegment, List.cons_append, List.length_cons, List.length_append,
    List.length_nil] at longer
  omega

theorem undoubleQuotes_cons_of_ne {c : Char} (plain : c ≠ dialect.quote) (rest : Text) :
    dialect.undoubleQuotes (c :: rest) = c :: dialect.undoubleQuotes rest := by
  cases rest with
  | nil => rfl
  | cons next rest => simp only [undoubleQuotes, plain, false_and, ↓reduceIte]

theorem undoubleQuotes_pair (rest : Text) :
    dialect.undoubleQuotes (dialect.quote :: dialect.quote :: rest) =
      dialect.quote :: dialect.undoubleQuotes rest := by
  simp only [undoubleQuotes, and_self, ↓reduceIte]

theorem undoubleQuotes_single {rest : Text} (free : rest.head? ≠ some dialect.quote) :
    dialect.undoubleQuotes (dialect.quote :: rest) =
      dialect.quote :: dialect.undoubleQuotes rest := by
  cases rest with
  | nil => rfl
  | cons next rest =>
      have different := dialect.head?_cons_ne_iff.mp free
      simp only [undoubleQuotes, different, and_false, ↓reduceIte]

theorem undoubleQuotes_sublist (text : Text) : (dialect.undoubleQuotes text).Sublist text := by
  fun_induction undoubleQuotes dialect text with
  | case1 => exact .refl _
  | case2 c => exact .refl _
  | case3 c next rest pair ih => exact .cons_cons c (.cons next ih)
  | case4 c next rest single ih => exact .cons_cons c ih

/-- Undoing the doubling keeps a text exactly if no two quotes in it are neighbours. -/
theorem undoubleQuotes_eq_self_iff {text : Text} :
    dialect.undoubleQuotes text = text ↔ ¬ [dialect.quote, dialect.quote] <:+: text := by
  fun_induction undoubleQuotes dialect text with
  | case1 => simp
  | case2 c =>
      refine iff_of_true rfl fun within => ?_
      have longer := within.length_le
      simp only [List.length_cons, List.length_nil] at longer
      omega
  | case3 c next rest pair ih =>
      obtain ⟨rfl, rfl⟩ := pair
      refine iff_of_false (fun same => ?_) fun apart => apart ⟨[], rest, rfl⟩
      have shorter := (dialect.undoubleQuotes_sublist rest).length_le
      have longer := congrArg List.length same
      simp only [List.length_cons] at longer
      omega
  | case4 c next rest single ih =>
      have front : ¬ [dialect.quote, dialect.quote] <+: c :: next :: rest := by
        intro starts
        obtain ⟨_, whole⟩ := starts
        cases whole
        exact single ⟨rfl, rfl⟩
      rw [List.infix_cons_iff, List.cons.injEq, ih]
      exact ⟨fun ⟨_, apart⟩ => not_or.mpr ⟨front, apart⟩, fun apart => ⟨rfl, (not_or.mp apart).2⟩⟩

theorem stripQuotes_of_head_ne {text : Text} (plain : text.head? ≠ some dialect.quote) :
    dialect.stripQuotes text = text := by
  cases text with
  | nil => rfl
  | cons first rest =>
      have different := dialect.head?_cons_ne_iff.mp plain
      simp only [stripQuotes, different, false_and, ↓reduceIte]

theorem paired_doubleQuotes (value : Text) : dialect.Paired (dialect.doubleQuotes value) := by
  induction value with
  | nil => exact .nil
  | cons first rest ih =>
      by_cases mark : first = dialect.quote
      · subst mark
        rw [doubleQuotes_cons_quote]
        exact .pair ih
      · rw [doubleQuotes_cons_of_ne dialect mark]
        exact .plain mark ih

variable {dialect} in
theorem Paired.eq_doubleQuotes {inner : Text} (paired : dialect.Paired inner) :
    ∃ value, inner = dialect.doubleQuotes value := by
  induction paired with
  | nil => exact ⟨[], rfl⟩
  | plain different _ ih =>
      obtain ⟨value, rfl⟩ := ih
      exact ⟨_ :: value, (doubleQuotes_cons_of_ne dialect different value).symm⟩
  | pair _ ih =>
      obtain ⟨value, rfl⟩ := ih
      exact ⟨dialect.quote :: value, (doubleQuotes_cons_quote dialect value).symm⟩

theorem isQuoted_quoteSegment (value : Text) : dialect.IsQuoted (dialect.quoteSegment value) :=
  ⟨dialect.doubleQuotes value, dialect.paired_doubleQuotes value, rfl⟩

/-- The quoted segments are the written forms of values, each of the value it decodes to. -/
theorem isQuoted_iff {raw : Text} :
    dialect.IsQuoted raw ↔ raw = dialect.quoteSegment (dialect.decodeSegment raw) := by
  constructor
  · intro quoted
    obtain ⟨inner, paired, rfl⟩ := quoted
    obtain ⟨value, rfl⟩ := paired.eq_doubleQuotes
    exact congrArg dialect.quoteSegment (dialect.decodeSegment_quoteSegment value).symm
  · intro written
    rw [written]
    exact dialect.isQuoted_quoteSegment _

theorem cutAtClosing?_cons_of_ne {c : Char} (plain : c ≠ dialect.quote) (body : Text) :
    dialect.cutAtClosing? (c :: body) =
      (dialect.cutAtClosing? body).map fun (inner, tail) => (c :: inner, tail) := by
  cases body with
  | nil => simp only [cutAtClosing?, plain, ↓reduceIte, Option.map_none]
  | cons next rest => simp only [cutAtClosing?, ne_eq, plain, not_false_eq_true, ↓reduceIte]

theorem cutAtClosing?_pair (body : Text) :
    dialect.cutAtClosing? (dialect.quote :: dialect.quote :: body) =
      (dialect.cutAtClosing? body).map fun (inner, tail) =>
        (dialect.quote :: dialect.quote :: inner, tail) := by
  simp only [cutAtClosing?, ne_eq, not_true_eq_false, ↓reduceIte]

theorem cutAtClosing?_closing {tail : Text} (free : tail.head? ≠ some dialect.quote) :
    dialect.cutAtClosing? (dialect.quote :: tail) = some ([], tail) := by
  cases tail with
  | nil => simp only [cutAtClosing?, ↓reduceIte]
  | cons next rest =>
      have different := dialect.head?_cons_ne_iff.mp free
      simp only [cutAtClosing?, ne_eq, not_true_eq_false, different, ↓reduceIte]

variable {dialect} in
/-- Paired text closes nothing: what closes a body with such text in front closes the rest of it. -/
theorem Paired.cutAtClosing?_append_eq_map {inner : Text} (paired : dialect.Paired inner)
    (rest : Text) :
    dialect.cutAtClosing? (inner ++ rest) =
      (dialect.cutAtClosing? rest).map fun (more, tail) => (inner ++ more, tail) := by
  induction paired with
  | nil => exact Option.map_id'.symm
  | plain different _ ih =>
      rw [List.cons_append, cutAtClosing?_cons_of_ne dialect different, ih, Option.map_map]
      rfl
  | pair _ ih =>
      rw [List.cons_append, List.cons_append, cutAtClosing?_pair, ih, Option.map_map]
      rfl

variable {dialect} in
theorem Paired.cutAtClosing?_eq_none {body : Text} (paired : dialect.Paired body) :
    dialect.cutAtClosing? body = none := by
  have closed := paired.cutAtClosing?_append_eq_map []
  rw [List.append_nil] at closed
  exact closed

variable {dialect} in
theorem Paired.cutAtClosing?_append {inner tail : Text} (paired : dialect.Paired inner)
    (free : tail.head? ≠ some dialect.quote) :
    dialect.cutAtClosing? (inner ++ dialect.quote :: tail) = some (inner, tail) := by
  rw [paired.cutAtClosing?_append_eq_map, cutAtClosing?_closing dialect free]
  simp only [Option.map_some, List.append_nil]

/-- Read from the left, a body is paired throughout or has a quote that closes it. -/
theorem paired_or_closed (body : Text) :
    dialect.Paired body ∨ ∃ inner tail, dialect.Paired inner ∧
      body = inner ++ dialect.quote :: tail ∧ tail.head? ≠ some dialect.quote := by
  fun_induction cutAtClosing? dialect body with
  | case1 => exact .inl .nil
  | case2 => exact .inr ⟨[], [], .nil, rfl, by simp⟩
  | case3 c different => exact .inl (.plain different .nil)
  | case4 c next rest different ih =>
      rcases ih with paired | ⟨inner, tail, paired, whole, free⟩
      · exact .inl (.plain different paired)
      · exact .inr ⟨c :: inner, tail, .plain different paired, by rw [whole]; rfl, free⟩
  | case5 c rest mark ih =>
      obtain rfl : c = dialect.quote := Decidable.of_not_not mark
      rcases ih with paired | ⟨inner, tail, paired, whole, free⟩
      · exact .inl (.pair paired)
      · exact .inr ⟨_ :: _ :: inner, tail, .pair paired, by rw [whole]; rfl, free⟩
  | case6 c next rest mark different =>
      obtain rfl : c = dialect.quote := Decidable.of_not_not mark
      exact .inr ⟨[], next :: rest, .nil, rfl, by simpa using different⟩

theorem cutAtClosing?_eq_none_iff {body : Text} :
    dialect.cutAtClosing? body = none ↔ dialect.Paired body := by
  constructor
  · intro cut
    rcases dialect.paired_or_closed body with paired | ⟨inner, tail, paired, rfl, free⟩
    · exact paired
    · rw [paired.cutAtClosing?_append free] at cut
      cases cut
  · exact Paired.cutAtClosing?_eq_none

theorem cutAtClosing?_eq_some_iff {body inner tail : Text} :
    dialect.cutAtClosing? body = some (inner, tail) ↔
      dialect.Paired inner ∧ body = inner ++ dialect.quote :: tail ∧
        tail.head? ≠ some dialect.quote := by
  constructor
  · intro cut
    rcases dialect.paired_or_closed body with paired | ⟨front, back, paired, rfl, free⟩
    · rw [paired.cutAtClosing?_eq_none] at cut
      cases cut
    · rw [paired.cutAtClosing?_append free] at cut
      cases cut
      exact ⟨paired, rfl, free⟩
  · intro parts
    obtain ⟨paired, rfl, free⟩ := parts
    exact paired.cutAtClosing?_append free

end Dialect

end DottedNames
