import DottedNames.Proofs.Pairing
import DottedNames.Split

set_option autoImplicit false

namespace DottedNames

namespace Text

def terminated (segments : List Text) : Text := segments.flatMap (· ++ [separator])

@[simp] theorem terminated_nil : terminated [] = [] := rfl

theorem terminated_cons_append (raw : Text) (segments : List Text) (rest : Text) :
    terminated (raw :: segments) ++ rest = raw ++ separator :: (terminated segments ++ rest) := by
  simp only [terminated, List.flatMap_cons, List.append_assoc, List.cons_append, List.nil_append]

theorem append_separator_ne_nil (front rest : Text) : front ++ separator :: rest ≠ [] :=
  List.append_ne_nil_of_right_ne_nil front (List.cons_ne_nil separator rest)

theorem intercalate_concat (segments : List Text) (last : Text) :
    [separator].intercalate (segments ++ [last]) = terminated segments ++ last := by
  induction segments with
  | nil => exact List.intercalate_singleton
  | cons raw segments ih =>
      have filled : segments ++ [last] ≠ [] :=
        List.append_ne_nil_of_right_ne_nil segments (List.cons_ne_nil last [])
      rw [terminated_cons_append, ← ih, List.cons_append, List.intercalate_cons_of_ne_nil filled,
        List.append_assoc, List.singleton_append]

theorem terminated_concat (segments : List Text) (last : Text) :
    terminated (segments ++ [last]) =
      [separator].intercalate (segments ++ [last]) ++ [separator] := by
  rw [intercalate_concat]
  simp only [terminated, List.flatMap_append, List.flatMap_singleton, List.append_assoc]

theorem intercalate_append_separator {segments : List Text} (filled : segments ≠ []) (rest : Text) :
    [separator].intercalate segments ++ separator :: rest = terminated segments ++ rest := by
  rw [← List.dropLast_concat_getLast filled, terminated_concat, List.append_assoc,
    List.singleton_append]

end Text

open Text (terminated)

namespace Dialect

variable (dialect : Dialect)

/-- A raw segment. The empty text is a bare one. -/
def IsSegment (raw : Text) : Prop := dialect.IsBare raw ∨ dialect.IsQuoted raw

/-- The ways in which a scan ends at a text that is not empty, with what it reports there. -/
inductive Ends : Text → Ending → Prop where
  | segment {raw : Text} : raw ≠ [] → dialect.IsSegment raw → Ends raw (.complete (some raw))
  /-- A quote that nothing closes; it is reported with everything behind it. -/
  | unterminated {body : Text} : dialect.Paired body →
      Ends (dialect.quote :: body) (.malformed .unterminatedQuote (some (dialect.quote :: body)))
  /-- A separator behind a bare segment, at the end of the text; the segment is not reported. -/
  | trailing {raw : Text} : dialect.IsBare raw →
      Ends (raw ++ [separator]) (.malformed .trailingSeparator none)
  /-- More text behind a closing quote and no separator; the quoted segment is not reported. -/
  | missing {quoted extra : Text} : dialect.IsQuoted quoted → dialect.IsBare extra → extra ≠ [] →
      Ends (quoted ++ extra) (.malformed .missingSeparator none)
  /-- More text between a closing quote and a separator; both are reported as one. -/
  | textBefore {quoted extra rest : Text} :
      dialect.IsQuoted quoted → dialect.IsBare extra → extra ≠ [] →
      Ends (quoted ++ extra ++ separator :: rest)
        (.malformed .textBeforeSeparator (some (quoted ++ extra)))

/-- What the start of a text holds. A separator may end a text only behind a quoted segment. -/
inductive Opens : Text → Step → Prop where
  | bare {raw rest : Text} : dialect.IsBare raw → rest ≠ [] →
      Opens (raw ++ separator :: rest) (.separated raw rest)
  | quoted {raw rest : Text} : dialect.IsQuoted raw →
      Opens (raw ++ separator :: rest) (.separated raw rest)
  | ends {text : Text} {ending : Ending} : dialect.Ends text ending → Opens text (.ends ending)

variable {dialect}

theorem IsSegment.isQuoted {raw : Text} (segment : dialect.IsSegment raw)
    (head : raw.head? = some dialect.quote) : dialect.IsQuoted raw :=
  segment.resolve_left fun bare => bare.2 head

/-- A text that starts with a bare segment does not start with a quote. -/
theorem IsBare.first_ne_quote {raw rest text : Text} {first : Char} (bare : dialect.IsBare raw)
    (whole : raw ++ separator :: rest = first :: text) : first ≠ dialect.quote := by
  cases raw with
  | nil =>
      cases whole
      exact dialect.quote_ne_separator.symm
  | cons c raw =>
      cases whole
      exact dialect.head?_cons_ne_iff.mp bare.2

theorem Ends.ne_nil {text : Text} {ending : Ending} (ends : dialect.Ends text ending) :
    text ≠ [] := by
  cases ends with
  | segment filled _ => exact filled
  | unterminated _ => exact List.cons_ne_nil _ _
  | trailing _ => exact Text.append_separator_ne_nil _ _
  | missing _ _ filled => exact List.append_ne_nil_of_right_ne_nil _ filled
  | textBefore _ _ _ => exact Text.append_separator_ne_nil _ _

theorem Opens.ne_nil {text : Text} {found : Step} (opens : dialect.Opens text found) :
    text ≠ [] := by
  cases opens with
  | bare _ _ => exact Text.append_separator_ne_nil _ _
  | quoted _ => exact Text.append_separator_ne_nil _ _
  | ends ends => exact ends.ne_nil

/-- The part of a text before its first separator is bare if the text does not start with a quote.
-/
theorem IsBare.of_cut {before after text : Text} (plain : text.head? ≠ some dialect.quote)
    (free : separator ∉ before) (whole : text = before ++ separator :: after) :
    dialect.IsBare before := by
  refine ⟨free, ?_⟩
  cases before with
  | nil => exact dialect.head?_nil_ne
  | cons c before =>
      rw [whole] at plain
      exact plain

theorem IsQuoted.cut {raw tail text : Text} {first : Char} (quoted : dialect.IsQuoted raw)
    (free : tail.head? ≠ some dialect.quote) (whole : first :: text = raw ++ tail) :
    ∃ inner, raw = dialect.quote :: inner ++ [dialect.quote] ∧ first = dialect.quote ∧
      dialect.cutAtClosing? text = some (inner, tail) := by
  obtain ⟨inner, paired, rfl⟩ := quoted
  rw [List.cons_append, List.cons_append, List.append_assoc] at whole
  cases whole
  exact ⟨inner, rfl, rfl, paired.cutAtClosing?_append free⟩

variable (dialect)

theorem step_of_ne {first : Char} (plain : first ≠ dialect.quote) (text : Text) :
    dialect.step first text = bareStep (first :: text) := by
  simp only [step, plain, ↓reduceIte]

theorem step_quote (body : Text) :
    dialect.step dialect.quote body = dialect.quotedStep body := by
  simp only [step, ↓reduceIte]

theorem opens_bareStep {text : Text} (filled : text ≠ [])
    (plain : text.head? ≠ some dialect.quote) : dialect.Opens text (bareStep text) := by
  cases cut : Text.cutAt? separator text with
  | none =>
      have bare : dialect.IsBare text := ⟨Text.cutAt?_eq_none_iff.mp cut, plain⟩
      simp only [bareStep, cut]
      exact .ends (.segment filled (.inl bare))
  | some parts =>
      obtain ⟨before, after⟩ := parts
      obtain ⟨free, whole⟩ := Text.cutAt?_eq_some_iff.mp cut
      have bare := IsBare.of_cut plain free whole
      simp only [bareStep, cut]
      rw [whole]
      cases after with
      | nil => exact .ends (.trailing bare)
      | cons next rest => exact .bare bare (List.cons_ne_nil next rest)

theorem opens_quotedStep (body : Text) :
    dialect.Opens (dialect.quote :: body) (dialect.quotedStep body) := by
  rcases dialect.paired_or_closed body with paired | ⟨inner, tail, paired, rfl, free⟩
  · simp only [quotedStep, paired.cutAtClosing?_eq_none]
    exact .ends (.unterminated paired)
  · have quoted : dialect.IsQuoted (dialect.quote :: inner ++ [dialect.quote]) :=
      ⟨inner, paired, rfl⟩
    have whole : dialect.quote :: (inner ++ dialect.quote :: tail) =
        (dialect.quote :: inner ++ [dialect.quote]) ++ tail := by
      simp only [List.cons_append, List.append_assoc, List.nil_append]
    simp only [quotedStep, paired.cutAtClosing?_append free]
    rw [whole]
    cases tail with
    | nil =>
        rw [List.append_nil]
        exact .ends (.segment (List.cons_ne_nil _ _) (.inr quoted))
    | cons next rest =>
        cases cut : Text.cutAt? separator (next :: rest) with
        | none =>
            have bare : dialect.IsBare (next :: rest) := ⟨Text.cutAt?_eq_none_iff.mp cut, free⟩
            exact .ends (.missing quoted bare (List.cons_ne_nil next rest))
        | some parts =>
            obtain ⟨extra, after⟩ := parts
            obtain ⟨apart, split⟩ := Text.cutAt?_eq_some_iff.mp cut
            have bare := IsBare.of_cut free apart split
            rw [split]
            cases extra with
            | nil => exact .quoted quoted
            | cons c extra =>
                rw [← List.append_assoc]
                exact .ends (.textBefore quoted bare (List.cons_ne_nil c extra))

theorem opens_step (first : Char) (text : Text) :
    dialect.Opens (first :: text) (dialect.step first text) := by
  by_cases mark : first = dialect.quote
  · subst mark
    rw [step_quote]
    exact dialect.opens_quotedStep text
  · rw [step_of_ne dialect mark]
    exact dialect.opens_bareStep (List.cons_ne_nil first text)
      (dialect.head?_cons_ne_iff.mpr mark)

variable {dialect}

theorem IsBare.cutAt?_eq {raw : Text} (bare : dialect.IsBare raw) (rest : Text) :
    Text.cutAt? separator (raw ++ separator :: rest) = some (raw, rest) :=
  Text.cutAt?_eq_some_iff.mpr ⟨bare.1, rfl⟩

theorem IsBare.step_eq_separated {raw rest text : Text} {first : Char}
    (bare : dialect.IsBare raw) (filled : rest ≠ [])
    (whole : first :: text = raw ++ separator :: rest) :
    dialect.step first text = .separated raw rest := by
  rw [step_of_ne dialect (bare.first_ne_quote whole.symm), whole]
  cases rest with
  | nil => exact absurd rfl filled
  | cons next rest => simp only [bareStep, bare.cutAt?_eq]

theorem IsBare.step_eq_trailing {raw text : Text} {first : Char} (bare : dialect.IsBare raw)
    (whole : first :: text = raw ++ [separator]) :
    dialect.step first text = .ends (.malformed .trailingSeparator none) := by
  rw [step_of_ne dialect (bare.first_ne_quote whole.symm), whole]
  simp only [bareStep, bare.cutAt?_eq]

theorem IsBare.step_eq_complete {text : Text} {first : Char}
    (bare : dialect.IsBare (first :: text)) :
    dialect.step first text = .ends (.complete (some (first :: text))) := by
  have plain := dialect.head?_cons_ne_iff.mp bare.2
  rw [step_of_ne dialect plain]
  simp only [bareStep, Text.cutAt?_eq_none_iff.mpr bare.1]

theorem IsQuoted.step_eq_separated {raw rest text : Text} {first : Char}
    (quoted : dialect.IsQuoted raw) (whole : first :: text = raw ++ separator :: rest) :
    dialect.step first text = .separated raw rest := by
  have free : (separator :: rest).head? ≠ some dialect.quote :=
    dialect.head?_cons_ne_iff.mpr dialect.quote_ne_separator.symm
  obtain ⟨inner, rfl, rfl, cut⟩ := quoted.cut free whole
  have next : Text.cutAt? separator (separator :: rest) = some ([], rest) :=
    Text.cutAt?_eq_some_iff.mpr ⟨List.not_mem_nil, rfl⟩
  rw [step_quote]
  simp only [quotedStep, cut, next]

theorem IsQuoted.step_eq_complete {text : Text} {first : Char}
    (quoted : dialect.IsQuoted (first :: text)) :
    dialect.step first text = .ends (.complete (some (first :: text))) := by
  obtain ⟨inner, whole, rfl, cut⟩ := quoted.cut dialect.head?_nil_ne (List.append_nil _).symm
  rw [step_quote, whole]
  simp only [quotedStep, cut]

theorem IsQuoted.step_eq_missing {quoted extra text : Text} {first : Char}
    (closed : dialect.IsQuoted quoted) (bare : dialect.IsBare extra) (filled : extra ≠ [])
    (whole : first :: text = quoted ++ extra) :
    dialect.step first text = .ends (.malformed .missingSeparator none) := by
  obtain ⟨inner, rfl, rfl, cut⟩ := closed.cut bare.2 whole
  have apart := Text.cutAt?_eq_none_iff.mpr bare.1
  rw [step_quote]
  cases extra with
  | nil => exact absurd rfl filled
  | cons c extra => simp only [quotedStep, cut, apart]

theorem IsQuoted.step_eq_textBefore {quoted extra rest text : Text} {first : Char}
    (closed : dialect.IsQuoted quoted) (bare : dialect.IsBare extra) (filled : extra ≠ [])
    (whole : first :: text = quoted ++ extra ++ separator :: rest) :
    dialect.step first text =
      .ends (.malformed .textBeforeSeparator (some (quoted ++ extra))) := by
  have apart := bare.cutAt?_eq rest
  rw [List.append_assoc] at whole
  cases extra with
  | nil => exact absurd rfl filled
  | cons c extra =>
      have free : (c :: extra ++ separator :: rest).head? ≠ some dialect.quote := bare.2
      obtain ⟨inner, rfl, rfl, cut⟩ := closed.cut free whole
      rw [List.cons_append] at apart
      rw [step_quote]
      simp only [quotedStep, cut, List.cons_append, apart]

theorem Ends.step_eq {text whole : Text} {first : Char} {ending : Ending}
    (ends : dialect.Ends whole ending) (same : first :: text = whole) :
    dialect.step first text = .ends ending := by
  cases ends with
  | segment _ segment =>
      subst same
      rcases segment with bare | quoted
      · exact bare.step_eq_complete
      · exact quoted.step_eq_complete
  | unterminated paired =>
      cases same
      rw [step_quote]
      simp only [quotedStep, paired.cutAtClosing?_eq_none]
  | trailing bare => exact bare.step_eq_trailing same
  | missing quoted bare filled => exact quoted.step_eq_missing bare filled same
  | textBefore quoted bare filled => exact quoted.step_eq_textBefore bare filled same

theorem Opens.step_eq {text : Text} {first : Char} {found : Step}
    (opens : dialect.Opens (first :: text) found) : dialect.step first text = found := by
  generalize same : first :: text = whole at opens
  cases opens with
  | bare bare filled => exact bare.step_eq_separated filled same
  | quoted quoted => exact quoted.step_eq_separated same
  | ends ends => exact ends.step_eq same

variable (dialect)

/-- A step of the scan finds exactly what the grammar says that a text opens with. -/
theorem step_eq_iff {first : Char} {text : Text} {found : Step} :
    dialect.step first text = found ↔ dialect.Opens (first :: text) found := by
  constructor
  · intro same
    rw [← same]
    exact dialect.opens_step first text
  · exact Opens.step_eq

/-- The segments read from the start of a text, each with a separator behind it, and the rest. -/
inductive Reads : Text → List Text → Text → Prop where
  | done {rest : Text} : Reads rest [] rest
  | separated {text raw later rest : Text} {segments : List Text} :
      dialect.Opens text (.separated raw later) → Reads later segments rest →
      Reads text (raw :: segments) rest

variable {dialect}

theorem opens_separated_iff {text raw rest : Text} :
    dialect.Opens text (.separated raw rest) ↔
      text = raw ++ separator :: rest ∧ dialect.IsSegment raw ∧
        (rest = [] → dialect.IsQuoted raw) := by
  constructor
  · intro opens
    cases opens with
    | bare bare filled => exact ⟨rfl, .inl bare, fun empty => absurd empty filled⟩
    | quoted quoted => exact ⟨rfl, .inr quoted, fun _ => quoted⟩
  · intro parts
    obtain ⟨rfl, segment, dangling⟩ := parts
    rcases segment with bare | quoted
    · by_cases empty : rest = []
      · exact .quoted (dangling empty)
      · exact .bare bare empty
    · exact .quoted quoted

theorem Opens.unique {text : Text} {first second : Step} (opens : dialect.Opens text first)
    (other : dialect.Opens text second) : first = second := by
  cases text with
  | nil => exact absurd rfl opens.ne_nil
  | cons c text => exact opens.step_eq.symm.trans other.step_eq

theorem Opens.ends_of_ends {text : Text} {ending : Ending}
    (opens : dialect.Opens text (.ends ending)) : dialect.Ends text ending := by
  cases opens with
  | ends ends => exact ends

theorem Reads.whole {text rest : Text} {segments : List Text}
    (reads : dialect.Reads text segments rest) : text = terminated segments ++ rest := by
  induction reads with
  | done => rfl
  | separated opens _ ih =>
      rw [(opens_separated_iff.mp opens).1, ih, Text.terminated_cons_append]

theorem Reads.valid {text rest : Text} {segments : List Text}
    (reads : dialect.Reads text segments rest) : ∀ raw ∈ segments, dialect.IsSegment raw := by
  induction reads with
  | done => exact List.forall_mem_nil _
  | separated opens _ ih =>
      exact List.forall_mem_cons.mpr ⟨(opens_separated_iff.mp opens).2.1, ih⟩

/-- Behind a bare segment there is always more text. -/
theorem Reads.isQuoted_getLast {text rest : Text} {segments : List Text}
    (reads : dialect.Reads text segments rest) (empty : rest = []) :
    ∀ last ∈ segments.getLast?, dialect.IsQuoted last := by
  induction reads with
  | done => exact fun _ member => nomatch member
  | separated opens later ih =>
      cases later with
      | done =>
          intro last member
          cases member
          exact (opens_separated_iff.mp opens).2.2 empty
      | separated _ _ => exact ih empty

theorem reads_terminated_append {rest : Text} {segments : List Text}
    (valid : ∀ raw ∈ segments, dialect.IsSegment raw)
    (dangling : rest = [] → ∀ last ∈ segments.getLast?, dialect.IsQuoted last) :
    dialect.Reads (terminated segments ++ rest) segments rest := by
  induction segments with
  | nil => exact .done
  | cons raw segments ih =>
      obtain ⟨segment, valid⟩ := List.forall_mem_cons.mp valid
      rw [Text.terminated_cons_append]
      -- Only behind the last segment can the text be at its end.
      cases segments with
      | nil =>
          have opens := opens_separated_iff.mpr ⟨rfl, segment, fun empty => dangling empty raw rfl⟩
          exact .separated opens .done
      | cons next segments =>
          have filled : terminated (next :: segments) ++ rest ≠ [] := by
            rw [Text.terminated_cons_append]
            exact Text.append_separator_ne_nil _ _
          have opens := opens_separated_iff.mpr
            ⟨rfl, segment, fun empty => absurd empty filled⟩
          exact .separated opens (ih valid dangling)

theorem Opens.scan_eq {text raw rest : Text} (opens : dialect.Opens text (.separated raw rest)) :
    dialect.scan text = ⟨raw :: (dialect.scan rest).separated, (dialect.scan rest).ending⟩ := by
  cases text with
  | nil => exact absurd rfl opens.ne_nil
  | cons first text => exact dialect.scan_of_separated opens.step_eq

theorem Ends.scan_eq {text : Text} {ending : Ending} (ends : dialect.Ends text ending) :
    dialect.scan text = ⟨[], ending⟩ := by
  cases text with
  | nil => exact absurd rfl ends.ne_nil
  | cons first text => exact dialect.scan_of_ends (ends.step_eq rfl)

/-- The scan reads what the grammar reads and goes on with the rest. -/
theorem Reads.scan_eq {text rest : Text} {segments : List Text}
    (reads : dialect.Reads text segments rest) :
    dialect.scan text =
      ⟨segments ++ (dialect.scan rest).separated, (dialect.scan rest).ending⟩ := by
  induction reads with
  | done => rfl
  | separated opens _ ih =>
      rw [opens.scan_eq, ih]
      rfl

variable (dialect)

/-- Whatever the text, the scan reads segments by the grammar up to the end of the text or to a rest
that ends it. -/
theorem reads_scan (text : Text) :
    ∃ rest, dialect.Reads text (dialect.scan text).separated rest ∧
      (rest = [] ∧ (dialect.scan text).ending = .complete none ∨
        dialect.Ends rest (dialect.scan text).ending) := by
  fun_induction scan dialect text with
  | case1 => exact ⟨[], .done, .inl ⟨rfl, rfl⟩⟩
  | case2 first text raw later read _ _ ih =>
      obtain ⟨rest, reads, ends⟩ := ih
      exact ⟨rest, .separated (dialect.step_eq_iff.mp read) reads, ends⟩
  | case3 first text ending read =>
      exact ⟨first :: text, .done, .inr (dialect.step_eq_iff.mp read).ends_of_ends⟩

end Dialect

end DottedNames
