import DottedNames.Proofs.Templates

set_option autoImplicit false

namespace DottedNames

namespace Statement

/-- The texts that a template may be made of. -/
inductive IsToken : Text → Prop where
  | opening : IsToken ['{', '{']
  | closing : IsToken ['}', '}']
  | placeholder : IsToken ['{', '}']
  | plain {c : Char} : c ≠ '{' → c ≠ '}' → IsToken [c]

/-- The tokens that make up the longest part at the start of a template, and the text behind it. -/
structure IsLongestReading (template : Text) (tokens : List Text) (rest : Text) : Prop where
  valid : ∀ token ∈ tokens, IsToken token
  whole : template = tokens.flatten ++ rest
  longest : ∀ (others : List Text) (back : Text), (∀ token ∈ others, IsToken token) →
    template = others.flatten ++ back → others.flatten.length ≤ tokens.flatten.length

theorem written_plain {c : Char} (opening : c ≠ '{') (closing : c ≠ '}') :
    (Piece.literal c).written = [c] := if_neg (not_or.mpr ⟨opening, closing⟩)

/-- The tokens are the written forms of the pieces. -/
theorem isToken_iff {token : Text} : IsToken token ↔ ∃ piece : Piece, piece.written = token := by
  constructor
  · intro valid
    cases valid with
    | opening => exact ⟨.literal '{', rfl⟩
    | closing => exact ⟨.literal '}', rfl⟩
    | placeholder => exact ⟨.placeholder, rfl⟩
    | plain opening closing => exact ⟨.literal _, written_plain opening closing⟩
  · rintro ⟨piece, rfl⟩
    cases piece with
    | placeholder => exact .placeholder
    | literal c =>
        by_cases opening : c = '{'
        · subst opening
          exact .opening
        by_cases closing : c = '}'
        · subst closing
          exact .closing
        rw [written_plain opening closing]
        exact .plain opening closing

theorem isToken_of_mem_map_written {read : List Piece} {token : Text}
    (member : token ∈ read.map Piece.written) : IsToken token := by
  obtain ⟨piece, _, same⟩ := List.mem_map.mp member
  exact isToken_iff.mpr ⟨piece, same⟩

theorem exists_map_written {tokens : List Text} (valid : ∀ token ∈ tokens, IsToken token) :
    ∃ read : List Piece, tokens = read.map Piece.written := by
  induction tokens with
  | nil => exact ⟨[], rfl⟩
  | cons token tokens ih =>
      obtain ⟨first, later⟩ := List.forall_mem_cons.mp valid
      obtain ⟨piece, rfl⟩ := isToken_iff.mp first
      obtain ⟨read, rfl⟩ := ih later
      exact ⟨piece :: read, rfl⟩

theorem flatten_map_written (read : List Piece) :
    (read.map Piece.written).flatten = written read := List.flatMap_def.symm

theorem length_pos_of_isToken {token : Text} (valid : IsToken token) : 0 < token.length := by
  cases valid <;> exact Nat.succ_pos _

theorem eq_nil_of_length_written {read : List Piece} (empty : (written read).length = 0) :
    read = [] := by
  cases read with
  | nil => rfl
  | cons piece read =>
      have positive := length_pos_of_isToken (isToken_iff.mpr ⟨piece, rfl⟩)
      rw [written, List.flatMap_cons, List.length_append] at empty
      omega

theorem written_eq_placeholder_iff {piece : Piece} :
    piece.written = ['{', '}'] ↔ piece = .placeholder := by
  cases piece with
  | placeholder => exact iff_of_true rfl rfl
  | literal c =>
      refine iff_of_false (fun same => ?_) nofun
      by_cases brace : c = '{' ∨ c = '}'
      · simp only [Piece.written, brace, ↓reduceIte, List.cons.injEq] at same
        exact absurd (same.1.symm.trans same.2.1) (by decide)
      · simp only [Piece.written, brace, ↓reduceIte, List.cons.injEq] at same
        cases same.2

theorem count_map_written (read : List Piece) :
    (read.map Piece.written).count ['{', '}'] = read.count .placeholder := by
  rw [List.count, List.countP_map, List.count]
  apply List.countP_congr
  intro piece _
  simp only [Function.comp_apply, beq_iff_eq, written_eq_placeholder_iff]

/-- Where reading stops before the end, it stops at a brace. -/
theorem head?_unread {template rest : Text} {c : Char} (left : (pieces template).2 = c :: rest) :
    c = '{' ∨ c = '}' := by
  fun_induction pieces template with
  | case1 => cases left
  | case2 text ih => exact ih left
  | case3 text ih => exact ih left
  | case4 text ih => exact ih left
  | case5 d text _ _ _ brace =>
      cases left
      exact brace
  | case6 d text _ _ _ _ ih => exact ih left

/-- Reading goes at least as far as any tokens do. -/
theorem pieces_of_tokens {template rest : Text} {tokens : List Text}
    (valid : ∀ token ∈ tokens, IsToken token) (whole : template = tokens.flatten ++ rest) :
    ∃ read, tokens = read.map Piece.written ∧
      pieces template = (read ++ (pieces rest).1, (pieces rest).2) := by
  obtain ⟨read, rfl⟩ := exists_map_written valid
  rw [flatten_map_written] at whole
  exact ⟨read, rfl, by rw [whole, pieces_written_append]⟩

theorem isLongestReading_pieces (template : Text) :
    IsLongestReading template ((pieces template).1.map Piece.written) (pieces template).2 := by
  constructor
  case valid => exact fun _ => isToken_of_mem_map_written
  case whole =>
    rw [flatten_map_written]
    exact (written_append_unread template).symm
  case longest =>
    intro others back valid whole
    obtain ⟨read, rfl, same⟩ := pieces_of_tokens valid whole
    rw [same, flatten_map_written, flatten_map_written, written_append, List.length_append]
    exact Nat.le_add_right _ _

/-- Behind the longest reading no token starts, so it is what is read. -/
theorem IsLongestReading.exists_pieces {template rest : Text} {tokens : List Text}
    (reading : IsLongestReading template tokens rest) :
    ∃ read, tokens = read.map Piece.written ∧ pieces template = (read, rest) := by
  obtain ⟨read, rfl, same⟩ := pieces_of_tokens reading.valid reading.whole
  have bound := reading.longest _ _ (isLongestReading_pieces template).valid
    (isLongestReading_pieces template).whole
  rw [same, flatten_map_written, flatten_map_written, written_append, List.length_append] at bound
  have nothing : (pieces rest).1 = [] := eq_nil_of_length_written (by omega)
  have unread := written_append_unread rest
  rw [nothing] at same unread
  rw [List.append_nil, show (pieces rest).2 = rest from unread] at same
  exact ⟨read, rfl, same⟩

end Statement

open Statement

namespace Dialect

variable (dialect : Dialect)

theorem quoteForStatement_of_unread {template rest : Text} {read : List Piece}
    (same : pieces template = (read, rest)) (stopped : rest ≠ []) (values : List Text) :
    dialect.quoteForStatement template values =
      .error (.unbalancedBrace (Text.utf8Length (written read))) := by
  cases rest with
  | nil => exact absurd rfl stopped
  | cons c rest => simp only [quoteForStatement, same]

theorem quoteForStatement_of_count_ne {template : Text} {read : List Piece} {values : List Text}
    (same : pieces template = (read, [])) (differ : read.count .placeholder ≠ values.length) :
    dialect.quoteForStatement template values =
      .error (.arityMismatch (read.count .placeholder) values.length) := by
  simp only [quoteForStatement, same, differ, ↓reduceIte]

/-- A template has one longest part that tokens make up. If more text stands behind it, that text
starts with a brace and filling fails there, whatever the values are. Otherwise the number of
placeholders among the tokens decides whether the values fit. -/
theorem quoteForStatement_of_longest_reading (template : Text) :
    ∃ tokens rest, IsLongestReading template tokens rest ∧
      (∀ others back, IsLongestReading template others back → others = tokens ∧ back = rest) ∧
      ∀ (dialect : Dialect) (values : List Text),
        (rest ≠ [] → dialect.quoteForStatement template values =
            .error (.unbalancedBrace (Text.utf8Length tokens.flatten)) ∧
          (rest.head? = some '{' ∨ rest.head? = some '}')) ∧
        (rest = [] → tokens.count ['{', '}'] ≠ values.length →
          dialect.quoteForStatement template values =
            .error (.arityMismatch (tokens.count ['{', '}']) values.length)) ∧
        (rest = [] → tokens.count ['{', '}'] = values.length →
          ∃ text, dialect.quoteForStatement template values = .ok text) := by
  obtain ⟨read, rest, same⟩ : ∃ read rest, pieces template = (read, rest) := ⟨_, _, rfl⟩
  have reading := isLongestReading_pieces template
  rw [same] at reading
  refine ⟨read.map Piece.written, rest, reading, ?_, ?_⟩
  · intro others back other
    obtain ⟨again, rfl, once⟩ := other.exists_pieces
    cases same.symm.trans once
    exact ⟨rfl, rfl⟩
  · intro dialect values
    rw [count_map_written, flatten_map_written]
    refine ⟨fun stopped => ⟨dialect.quoteForStatement_of_unread same stopped values, ?_⟩, ?_, ?_⟩
    · obtain ⟨c, behind, rfl⟩ := List.exists_cons_of_ne_nil stopped
      rw [List.head?_cons, Option.some.injEq, Option.some.injEq]
      exact head?_unread (congrArg Prod.snd same)
    · rintro rfl
      exact dialect.quoteForStatement_of_count_ne same
    · rintro rfl fits
      exact ⟨_, dialect.quoteForStatement_eq_ok_iff_fill.mpr
        ⟨read, pieces_eq_iff.mp same, fits, rfl⟩⟩

-- The first character takes two bytes, and the pair of braces behind it is one token.
example : (default : Dialect).quoteForStatement ['é', '{', '{', '{', 'x'] [['v']] =
    .error (.unbalancedBrace 4) := rfl

end Dialect

end DottedNames
