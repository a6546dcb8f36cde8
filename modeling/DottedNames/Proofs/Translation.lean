import DottedNames.Name.Reading
import DottedNames.Name.Rendering
import DottedNames.Proofs.Grammar
import Mathlib.Logic.Equiv.Basic

set_option autoImplicit false

namespace DottedNames

structure Translation (first second : Dialect) where
  char : Char ≃ Char
  char_separator : char separator = separator
  char_quote : char first.quote = second.quote

namespace Translation

/-- Exchanges the two quotes and keeps every other character. -/
def exchange (first second : Dialect) : Translation first second where
  char := Equiv.swap first.quote second.quote
  char_separator :=
    Equiv.swap_apply_of_ne_of_ne first.quote_ne_separator.symm second.quote_ne_separator.symm
  char_quote := Equiv.swap_apply_left first.quote second.quote

variable {first second : Dialect} (translation : Translation first second)

def text (value : Text) : Text := value.map translation.char

def texts (values : List Text) : List Text := values.map translation.text

def parts (cut : Text × Text) : Text × Text := (translation.text cut.1, translation.text cut.2)

def name (name : QualifiedName) : QualifiedName where
  database := name.database.map translation.text
  schema := name.schema.map translation.text
  table := name.table.map translation.text
  column := name.column.map translation.text

def splitError (error : SplitError) : SplitError where
  input := translation.text error.input
  cause := error.cause
  recovered := translation.texts error.recovered

def ending : Ending → Ending
  | .complete last => .complete (last.map translation.text)
  | .malformed cause offending => .malformed cause (offending.map translation.text)

def step : Step → Step
  | .separated segment rest => .separated (translation.text segment) (translation.text rest)
  | .ends ending => .ends (translation.ending ending)

def scan (scan : Scan) : Scan where
  separated := translation.texts scan.separated
  ending := translation.ending scan.ending

/-- What a translation makes of an answer: an error or a value, each translated as its kind is. -/
def answer {α : Type} (rename : α → α) : Except SplitError α → Except SplitError α
  | .ok value => .ok (rename value)
  | .error error => .error (translation.splitError error)

@[simp] theorem text_nil : translation.text [] = [] := rfl

@[simp] theorem text_cons (c : Char) (rest : Text) :
    translation.text (c :: rest) = translation.char c :: translation.text rest := rfl

@[simp] theorem text_append (front back : Text) :
    translation.text (front ++ back) = translation.text front ++ translation.text back :=
  List.map_append

@[simp] theorem char_eq_quote_iff {c : Char} :
    translation.char c = second.quote ↔ c = first.quote := by
  rw [← translation.char_quote]
  exact translation.char.apply_eq_iff_eq

@[simp] theorem char_eq_separator_iff {c : Char} :
    translation.char c = separator ↔ c = separator := by
  constructor
  · exact fun same => translation.char.injective (same.trans translation.char_separator.symm)
  · rintro rfl
    exact translation.char_separator

theorem doubleQuotes_text (value : Text) :
    second.doubleQuotes (translation.text value) = translation.text (first.doubleQuotes value) := by
  induction value with
  | nil => rfl
  | cons c rest ih =>
      by_cases mark : c = first.quote <;>
        simp only [text_cons, Dialect.doubleQuotes, char_eq_quote_iff, mark, ↓reduceIte, ih]

theorem undoubleQuotes_text (value : Text) :
    second.undoubleQuotes (translation.text value) =
      translation.text (first.undoubleQuotes value) := by
  fun_induction Dialect.undoubleQuotes first value with
  | case1 => rfl
  | case2 c => rfl
  | case3 c next rest pair ih =>
      simp only [text_cons, Dialect.undoubleQuotes, char_eq_quote_iff, pair, and_self, ↓reduceIte,
        ih]
  | case4 c next rest single ih =>
      rw [text_cons] at ih
      simp only [text_cons, Dialect.undoubleQuotes, char_eq_quote_iff, single, ↓reduceIte, ih]

theorem quoteSegment_text (value : Text) :
    second.quoteSegment (translation.text value) = translation.text (first.quoteSegment value) := by
  simp only [Dialect.quoteSegment, List.cons_append, text_cons, text_append, text_nil,
    doubleQuotes_text, translation.char_quote]

theorem getLast?_text_eq_quote_iff {value : Text} :
    (translation.text value).getLast? = some second.quote ↔
      value.getLast? = some first.quote := by
  rw [text, List.getLast?_map]
  cases value.getLast? with
  | none => exact iff_of_false nofun nofun
  | some c => simp only [Option.map_some, Option.some.injEq, char_eq_quote_iff]

theorem stripQuotes_text (raw : Text) :
    second.stripQuotes (translation.text raw) = translation.text (first.stripQuotes raw) := by
  cases raw with
  | nil => rfl
  | cons c rest =>
      by_cases closed : c = first.quote ∧ rest.getLast? = some first.quote
      · simp only [text_cons, Dialect.stripQuotes, char_eq_quote_iff, getLast?_text_eq_quote_iff,
          closed, and_self, ↓reduceIte]
        exact List.map_dropLast.symm
      · simp only [text_cons, Dialect.stripQuotes, char_eq_quote_iff, getLast?_text_eq_quote_iff,
          closed, ↓reduceIte]

theorem decodeSegment_text (raw : Text) :
    second.decodeSegment (translation.text raw) = translation.text (first.decodeSegment raw) := by
  simp only [Dialect.decodeSegment, stripQuotes_text, undoubleQuotes_text]

theorem cutAt?_text (value : Text) :
    Text.cutAt? separator (translation.text value) =
      (Text.cutAt? separator value).map translation.parts := by
  induction value with
  | nil => rfl
  | cons c rest ih =>
      by_cases found : c = separator
      · simp only [text_cons, Text.cutAt?, char_eq_separator_iff, found, ↓reduceIte]
        rfl
      · simp only [text_cons, Text.cutAt?, char_eq_separator_iff, found, ↓reduceIte, ih,
          Option.map_map]
        rfl

theorem cutAtClosing?_text (body : Text) :
    second.cutAtClosing? (translation.text body) =
      (first.cutAtClosing? body).map translation.parts := by
  fun_induction Dialect.cutAtClosing? first body with
  | case1 => rfl
  | case2 =>
      simp only [text_cons, text_nil, Dialect.cutAtClosing?, char_eq_quote_iff, ↓reduceIte]
      rfl
  | case3 c plain =>
      simp only [text_cons, text_nil, Dialect.cutAtClosing?, char_eq_quote_iff, plain, ↓reduceIte]
      rfl
  | case4 c next rest plain ih =>
      rw [text_cons] at ih
      simp only [text_cons, Dialect.cutAtClosing?, ne_eq, char_eq_quote_iff, plain,
        not_false_eq_true, ↓reduceIte, ih, Option.map_map]
      rfl
  | case5 c rest mark ih =>
      simp only [text_cons, Dialect.cutAtClosing?, ne_eq, char_eq_quote_iff, mark,
        ↓reduceIte, ih, Option.map_map]
      rfl
  | case6 c next rest mark other =>
      simp only [text_cons, Dialect.cutAtClosing?, ne_eq, char_eq_quote_iff, mark, other,
        ↓reduceIte]
      rfl

theorem bareStep_text (value : Text) :
    Dialect.bareStep (translation.text value) = translation.step (Dialect.bareStep value) := by
  simp only [Dialect.bareStep, cutAt?_text]
  cases Text.cutAt? separator value with
  | none => rfl
  | some cut =>
      obtain ⟨segment, rest⟩ := cut
      cases rest with
      | nil => rfl
      | cons next rest => rfl

theorem quotedStep_text (body : Text) :
    second.quotedStep (translation.text body) = translation.step (first.quotedStep body) := by
  simp only [Dialect.quotedStep, cutAtClosing?_text, ← translation.char_quote]
  cases first.cutAtClosing? body with
  | none => rfl
  | some closing =>
      obtain ⟨inner, tail⟩ := closing
      have segment : translation.text (first.quote :: inner ++ [first.quote]) =
          translation.char first.quote :: translation.text inner ++
            [translation.char first.quote] := translation.text_append _ _
      cases tail with
      | nil => simp only [Option.map_some, parts, text_nil, step, ending, segment]
      | cons next tail =>
          -- The cut comes first: whether text stands between the closing quote and the next
          -- separator is asked of its front part.
          simp only [Option.map_some, parts, text_cons]
          rw [← text_cons, cutAt?_text]
          cases Text.cutAt? separator (next :: tail) with
          | none => rfl
          | some cut =>
              obtain ⟨extra, rest⟩ := cut
              cases extra with
              | nil => simp only [Option.map_some, parts, text_nil, step, segment]
              | cons c extra =>
                  simp only [Option.map_some, parts, text_cons, step, ending, text_append, segment]

theorem step_text (c : Char) (rest : Text) :
    second.step (translation.char c) (translation.text rest) =
      translation.step (first.step c rest) := by
  by_cases mark : c = first.quote
  · subst mark
    rw [translation.char_quote, Dialect.step_quote, Dialect.step_quote, quotedStep_text]
  · have translated : translation.char c ≠ second.quote := fun same =>
      mark (translation.char_eq_quote_iff.mp same)
    rw [Dialect.step_of_ne second translated, Dialect.step_of_ne first mark, ← bareStep_text,
      text_cons]

/-- The two scans go in step: each goes on where the other does and ends where the other does. -/
theorem scan_text (value : Text) :
    second.scan (translation.text value) = translation.scan (first.scan value) := by
  fun_induction Dialect.scan first value with
  | case1 => exact second.scan_nil
  | case2 c rest segment later read _ _ ih =>
      have translated := translation.step_text c rest
      rw [read] at translated
      rw [text_cons, second.scan_of_separated translated, ih]
      rfl
  | case3 c rest ending read =>
      have translated := translation.step_text c rest
      rw [read] at translated
      rw [text_cons, second.scan_of_ends translated]
      rfl

theorem result_scan (input : Text) (scan : Scan) :
    (translation.scan scan).result (translation.text input) =
      translation.answer translation.texts (scan.result input) := by
  obtain ⟨separated, ending⟩ := scan
  cases ending with
  | complete last =>
      simp only [Scan.result, Translation.scan, Translation.ending, answer, texts,
        List.map_append, Option.toList_map]
  | malformed cause offending =>
      simp only [Scan.result, Translation.scan, Translation.ending, answer, splitError, texts,
        List.map_append, Option.toList_map]

theorem split_text (value : Text) :
    second.split (translation.text value) =
      translation.answer translation.texts (first.split value) := by
  unfold Dialect.split
  rw [scan_text, result_scan]

theorem ofSegments_texts (values : List Text) :
    QualifiedName.ofSegments (translation.texts values) =
      translation.name (.ofSegments values) := by
  simp only [QualifiedName.ofSegments, texts, List.getElem?_map, name]

theorem nameOfSegments_texts (raw : List Text) :
    second.nameOfSegments (translation.texts raw) =
      translation.name (first.nameOfSegments raw) := by
  have decoded : (translation.texts raw).map second.decodeSegment =
      translation.texts (raw.map first.decodeSegment) := by
    simp only [texts, List.map_map]
    exact List.map_congr_left fun value _ => translation.decodeSegment_text value
  rw [Dialect.nameOfSegments, decoded, ofSegments_texts, Dialect.nameOfSegments]

theorem tryParse_text (value : Text) :
    second.tryParse (translation.text value) =
      translation.answer translation.name (first.tryParse value) := by
  unfold Dialect.tryParse
  rw [split_text]
  cases first.split value with
  | ok raw => exact congrArg Except.ok (translation.nameOfSegments_texts raw)
  | error error => rfl

theorem parse_text (value : Text) :
    second.parse (translation.text value) = translation.name (first.parse value) := by
  unfold Dialect.parse
  rw [tryParse_text]
  cases first.tryParse value with
  | ok name => rfl
  | error error => rfl

theorem leading_map_text (values : List (Option Text)) :
    leading (values.map (Option.map translation.text)) = translation.texts (leading values) := by
  induction values with
  | nil => rfl
  | cons value values ih =>
      cases value with
      | none => rfl
      | some value => exact congrArg (translation.text value :: ·) ih

theorem segments_name (name : QualifiedName) :
    (translation.name name).segments = translation.texts name.segments :=
  translation.leading_map_text (Level.all.map name.get)

theorem intercalate_texts (values : List Text) :
    [separator].intercalate (translation.texts values) =
      translation.text ([separator].intercalate values) := by
  induction values with
  | nil => rfl
  | cons value values ih =>
      cases values with
      | nil => simp only [texts, List.map_cons, List.map_nil, List.intercalate_singleton]
      | cons next values =>
          rw [texts, List.map_cons] at ih ⊢
          rw [List.map_cons, List.intercalate_cons_cons, List.intercalate_cons_cons, ih]
          simp only [text_append, text_cons, text_nil, translation.char_separator]

/-- Levels that are written alike in both dialects make names that are written alike. -/
theorem render_name {style : Style}
    (level : ∀ value, second.renderSegment (translation.text value) style =
      translation.text (first.renderSegment value style)) (name : QualifiedName) :
    second.render (translation.name name) style = translation.text (first.render name style) := by
  unfold Dialect.render
  rw [segments_name, ← intercalate_texts]
  simp only [texts, List.map_map]
  exact congrArg _ (List.map_congr_left fun value _ => level value)

/-- Every operation answers the translated question with its translated answer. The minimal form is
not among them: which names are simple does not depend on the dialect. -/
structure Commutes : Prop where
  split : ∀ value, second.split (translation.text value) =
    translation.answer translation.texts (first.split value)
  tryParse : ∀ value, second.tryParse (translation.text value) =
    translation.answer translation.name (first.tryParse value)
  parse : ∀ value, second.parse (translation.text value) = translation.name (first.parse value)
  decodeSegment : ∀ raw, second.decodeSegment (translation.text raw) =
    translation.text (first.decodeSegment raw)
  undoubleQuotes : ∀ value, second.undoubleQuotes (translation.text value) =
    translation.text (first.undoubleQuotes value)
  doubleQuotes : ∀ value, second.doubleQuotes (translation.text value) =
    translation.text (first.doubleQuotes value)
  quoteSegment : ∀ value, second.quoteSegment (translation.text value) =
    translation.text (first.quoteSegment value)
  quoted : ∀ name, second.render (translation.name name) .quoted =
    translation.text (first.render name .quoted)
  unquoted : ∀ name, second.render (translation.name name) .unquoted =
    translation.text (first.render name .unquoted)

/-- Each operation asks of a character only whether it is the quote or the separator, and both
questions have the same answer before and after the translation. -/
theorem commutes : translation.Commutes where
  split := translation.split_text
  tryParse := translation.tryParse_text
  parse := translation.parse_text
  decodeSegment := translation.decodeSegment_text
  undoubleQuotes := translation.undoubleQuotes_text
  doubleQuotes := translation.doubleQuotes_text
  quoteSegment := translation.quoteSegment_text
  quoted := translation.render_name translation.quoteSegment_text
  unquoted := translation.render_name fun _ => rfl

end Translation

/-- Which character quotes is immaterial. Between any two dialects there are translations, and every
one of them takes the answers of the one to the answers of the other, errors included. The
operations that name no dialect are those of the usual dialect, in which a name on its own is
written too. -/
theorem Dialect.quote_immaterial (first second : Dialect) :
    Nonempty (Translation first second) ∧
      (∀ translation : Translation first second, translation.Commutes) ∧
      ∀ translation : Translation default second, translation.Commutes ∧
        ∀ name : QualifiedName,
          second.render (translation.name name) .quoted = translation.text name.display :=
  ⟨⟨.exchange first second⟩, fun translation => translation.commutes,
    fun translation => ⟨translation.commutes, translation.commutes.quoted⟩⟩

end DottedNames
