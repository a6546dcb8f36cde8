import DottedNames.Statement

set_option autoImplicit false

namespace DottedNames

namespace Statement

/-- A value that fills a placeholder, and the literal text between it and the next one. -/
structure Insertion where
  value : Text
  literal : Text

/-- How a literal text is written in a template: every brace twice. -/
def escape (text : Text) : Text :=
  text.flatMap fun c => if c = '{' ∨ c = '}' then [c, c] else [c]

/-- A template with its literal texts: the first one, and one behind each placeholder. -/
def writtenTemplate (first : Text) (insertions : List Insertion) : Text :=
  escape first ++ insertions.flatMap fun each => '{' :: '}' :: escape each.literal

/-- The literal texts with the quoted values between them. -/
def filledTemplate (dialect : Dialect) (first : Text) (insertions : List Insertion) : Text :=
  first ++ insertions.flatMap fun each => dialect.quoteSegment each.value ++ each.literal

def layout (first : Text) (insertions : List Insertion) : List Piece :=
  first.map .literal ++ insertions.flatMap fun each => .placeholder :: each.literal.map .literal

/-- A piece is read from its written form, whatever text comes behind it. -/
theorem pieces_written_append_text (piece : Piece) (rest : Text) :
    pieces (piece.written ++ rest) = (piece :: (pieces rest).1, (pieces rest).2) := by
  cases piece with
  | placeholder => rfl
  | literal c =>
      by_cases opening : c = '{'
      · subst opening
        rfl
      by_cases closing : c = '}'
      · subst closing
        rfl
      have plain : ¬ (c = '{' ∨ c = '}') := not_or.mpr ⟨opening, closing⟩
      simp only [Piece.written, plain, ↓reduceIte, List.singleton_append]
      rw [pieces]
      · simp only [plain, ↓reduceIte]
      · exact fun _ same => absurd same opening
      · exact fun _ same => absurd same opening
      · exact fun _ same => absurd same closing

theorem pieces_written_append (read : List Piece) (rest : Text) :
    pieces (written read ++ rest) = (read ++ (pieces rest).1, (pieces rest).2) := by
  induction read with
  | nil => rfl
  | cons piece read ih =>
      rw [written, List.flatMap_cons, List.append_assoc, pieces_written_append_text, ← written, ih]
      rfl

theorem pieces_written (read : List Piece) : pieces (written read) = (read, []) := by
  have whole := pieces_written_append read []
  rw [List.append_nil] at whole
  rw [whole, pieces, List.append_nil]

example : pieces ['{', '{', '{', '}', '}', '}'] =
    ([.literal '{', .placeholder, .literal '}'], []) := rfl

/-- A template is read to its end exactly if it is the written form of its pieces. -/
theorem pieces_eq_iff {template : Text} {read : List Piece} :
    pieces template = (read, []) ↔ template = written read := by
  constructor
  · intro same
    have whole := written_append_unread template
    rw [same, List.append_nil] at whole
    exact whole.symm
  · rintro rfl
    exact pieces_written read

theorem written_map_literal (text : Text) : written (text.map .literal) = escape text := by
  rw [written, List.flatMap_map]
  rfl

theorem layout_cons (first : Text) (each : Insertion) (insertions : List Insertion) :
    layout first (each :: insertions) =
      first.map .literal ++ .placeholder :: layout each.literal insertions := rfl

theorem written_append (front back : List Piece) :
    written (front ++ back) = written front ++ written back := List.flatMap_append

theorem written_layout (first : Text) (insertions : List Insertion) :
    written (layout first insertions) = writtenTemplate first insertions := by
  induction insertions generalizing first with
  | nil =>
      simp only [layout, writtenTemplate, List.flatMap_nil, List.append_nil, written_map_literal]
  | cons each insertions ih =>
      rw [layout_cons, written_append, written_map_literal]
      exact congrArg (escape first ++ '{' :: '}' :: ·) (ih each.literal)

theorem count_layout (first : Text) (insertions : List Insertion) :
    (layout first insertions).count .placeholder = insertions.length := by
  have literals (text : Text) : (text.map Piece.literal).count .placeholder = 0 :=
    List.count_eq_zero.mpr fun member => by
      obtain ⟨_, _, same⟩ := List.mem_map.mp member
      cases same
  induction insertions generalizing first with
  | nil => simp only [layout, List.flatMap_nil, List.append_nil, literals, List.length_nil]
  | cons each insertions ih =>
      rw [layout_cons, List.count_append, literals, List.count_cons_self, ih, Nat.zero_add,
        List.length_cons]

variable (dialect : Dialect)

theorem fill_literals_append (text : Text) (rest : List Piece) (values : List Text) :
    fill dialect (text.map .literal ++ rest) values = text ++ fill dialect rest values := by
  induction text with
  | nil => rfl
  | cons c text ih => exact congrArg (c :: ·) ih

theorem fill_layout (first : Text) (insertions : List Insertion) :
    fill dialect (layout first insertions) (insertions.map Insertion.value) =
      filledTemplate dialect first insertions := by
  induction insertions generalizing first with
  | nil =>
      rw [layout, fill_literals_append]
      rfl
  | cons each insertions ih =>
      rw [layout_cons, fill_literals_append, List.map_cons, fill, ih]
      simp only [filledTemplate, List.flatMap_cons, List.append_assoc]

/-- Pieces with as many placeholders as there are values are literal texts with the values to be
inserted between them. -/
theorem exists_layout {read : List Piece} {values : List Text}
    (same : read.count .placeholder = values.length) :
    ∃ first insertions, insertions.map Insertion.value = values ∧
      read = layout first insertions := by
  induction read generalizing values with
  | nil =>
      have none : values = [] := List.eq_nil_of_length_eq_zero same.symm
      exact ⟨[], [], none.symm, rfl⟩
  | cons piece read ih =>
      cases piece with
      | literal c =>
          have other : Piece.literal c ≠ .placeholder := nofun
          rw [List.count_cons_of_ne other] at same
          obtain ⟨first, insertions, filled, rfl⟩ := ih same
          exact ⟨c :: first, insertions, filled, rfl⟩
      | placeholder =>
          rw [List.count_cons_self] at same
          cases values with
          | nil => cases same
          | cons value values =>
              obtain ⟨first, insertions, rfl, rfl⟩ := ih (Nat.succ.inj same)
              exact ⟨[], ⟨value, first⟩ :: insertions, rfl, rfl⟩

end Statement

open Statement

namespace Dialect

variable (dialect : Dialect)

/-- A template is filled if it was read to its end and has a placeholder for each value. -/
theorem quoteForStatement_eq_ok_iff_fill {template text : Text} {values : List Text} :
    dialect.quoteForStatement template values = .ok text ↔
      ∃ read, template = written read ∧ read.count .placeholder = values.length ∧
        text = fill dialect read values := by
  constructor
  · intro success
    unfold quoteForStatement at success
    split at success
    · rename_i read whole
      dsimp only at success
      split at success
      · rename_i same
        exact ⟨read, pieces_eq_iff.mp whole, same, (Except.ok.inj success).symm⟩
      · cases success
    · cases success
  · rintro ⟨read, rfl, same, rfl⟩
    simp only [quoteForStatement, pieces_written, same, ↓reduceIte]

theorem quoteForStatement_writtenTemplate (first : Text) (insertions : List Insertion) :
    dialect.quoteForStatement (writtenTemplate first insertions)
      (insertions.map Insertion.value) = .ok (filledTemplate dialect first insertions) := by
  rw [quoteForStatement_eq_ok_iff_fill]
  refine ⟨layout first insertions, (written_layout first insertions).symm, ?_, ?_⟩
  · rw [count_layout, List.length_map]
  · exact (fill_layout dialect first insertions).symm

theorem exists_insertions {template text : Text} {values : List Text}
    (success : dialect.quoteForStatement template values = .ok text) :
    ∃ first insertions, insertions.map Insertion.value = values ∧
      template = writtenTemplate first insertions ∧
      text = filledTemplate dialect first insertions := by
  obtain ⟨read, rfl, same, rfl⟩ := dialect.quoteForStatement_eq_ok_iff_fill.mp success
  obtain ⟨first, insertions, rfl, rfl⟩ := exists_layout same
  exact ⟨first, insertions, rfl, written_layout first insertions,
    fill_layout dialect first insertions⟩

/-- A template takes a list of values exactly if it consists of literal texts, with their braces
doubled, and of a placeholder for each value between them. Filled, it has the same literal texts
as they are, and between them the values in their order, each in its quoted form. -/
theorem quoteForStatement_eq_ok_iff {template text : Text} {values : List Text} :
    dialect.quoteForStatement template values = .ok text ↔
      ∃ first insertions, insertions.map Insertion.value = values ∧
        template = writtenTemplate first insertions ∧
        text = filledTemplate dialect first insertions := by
  constructor
  · exact fun success => dialect.exists_insertions success
  · rintro ⟨first, insertions, rfl, rfl, rfl⟩
    exact dialect.quoteForStatement_writtenTemplate first insertions

end Dialect

end DottedNames
