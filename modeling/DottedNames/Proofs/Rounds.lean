import DottedNames.Proofs.ByteOffsets
import Mathlib.Logic.Relation

set_option autoImplicit false

namespace DottedNames

namespace Dialect

variable (dialect : Dialect)

/-- A round at a bare segment. There is none if it cuts elsewhere than at a boundary. -/
def bareRound (left : Text) : Option Step :=
  match Text.offset? separator left with
  | none => some (.ends (.complete (some left)))
  | some dot =>
      if dot + separator.utf8Size = Text.utf8Length left then
        some (.ends (.malformed .trailingSeparator none))
      else do
        let (segment, _) ← Text.cutAtOffset? left dot
        let (_, next) ← Text.cutAtOffset? left (dot + separator.utf8Size)
        return .separated segment next

/-- The end of a round at a quoted segment, from the offset behind its closing quote. -/
def closedRound (left : Text) (quotedEnd : Nat) : Option Step := do
  let (quoted, tail) ← Text.cutAtOffset? left quotedEnd
  if tail = [] then return .ends (.complete (some quoted))
  else
    match Text.offset? separator tail with
    | none => return .ends (.malformed .missingSeparator none)
    | some 0 =>
        let (_, next) ← Text.cutAtOffset? tail separator.utf8Size
        return .separated quoted next
    | some dot =>
        let (reported, _) ← Text.cutAtOffset? left (quotedEnd + dot)
        return .ends (.malformed .textBeforeSeparator (some reported))

def quotedRound (left : Text) : Option Step := do
  let (_, body) ← Text.cutAtOffset? left dialect.quote.utf8Size
  match dialect.closingFrom? 0 body with
  | none => return .ends (.malformed .unterminatedQuote (some left))
  | some close => closedRound left (dialect.quote.utf8Size + close + dialect.quote.utf8Size)

/-- One round over what is left of a text. It reads lengths and offsets only, and cuts at them. -/
def round (left : Text) : Option Step :=
  if left.head? = some dialect.quote then dialect.quotedRound left else bareRound left

/-- The offsets at which a round cuts what is left of a text. -/
inductive CutsAt (left : Text) : Nat → Prop where
  | atSeparator {dot : Nat} : left.head? ≠ some dialect.quote →
      Text.offset? separator left = some dot → CutsAt left dot
  | behindSeparator {dot : Nat} : left.head? ≠ some dialect.quote →
      Text.offset? separator left = some dot → CutsAt left (dot + separator.utf8Size)
  | behindOpening {body : Text} : left = dialect.quote :: body →
      CutsAt left dialect.quote.utf8Size
  | behindClosing {body : Text} {close : Nat} : left = dialect.quote :: body →
      dialect.closingFrom? 0 body = some close →
      CutsAt left (dialect.quote.utf8Size + close + dialect.quote.utf8Size)
  /-- Behind the text in front of the next separator, which there should be none of. -/
  | behindExtra {body quoted tail : Text} {close dot : Nat} : left = dialect.quote :: body →
      dialect.closingFrom? 0 body = some close →
      Text.cutAtOffset? left (dialect.quote.utf8Size + close + dialect.quote.utf8Size) =
        some (quoted, tail) →
      Text.offset? separator tail = some dot →
      CutsAt left (dialect.quote.utf8Size + close + dialect.quote.utf8Size + dot)
  | behindQuoted {body quoted tail : Text} {close : Nat} : left = dialect.quote :: body →
      dialect.closingFrom? 0 body = some close →
      Text.cutAtOffset? left (dialect.quote.utf8Size + close + dialect.quote.utf8Size) =
        some (quoted, tail) →
      Text.offset? separator tail = some 0 →
      CutsAt left (dialect.quote.utf8Size + close + dialect.quote.utf8Size + separator.utf8Size)

/-- A round that leaves less to be read behind a segment. -/
def GoesOn (left next : Text) : Prop :=
  left ≠ [] ∧ ∃ segment, dialect.round left = some (.separated segment next)

/-- The loop: it collects a segment in every round that goes on, until nothing is left or a round
ends it. A round without a result would leave it without one. -/
inductive Runs (input : Text) : List Text → Text → Except SplitError (List Text) → Prop where
  | done {segments : List Text} : Runs input segments [] (.ok segments)
  | complete {segments : List Text} {left : Text} {last : Option Text} : left ≠ [] →
      dialect.round left = some (.ends (.complete last)) →
      Runs input segments left (.ok (segments ++ last.toList))
  | malformed {segments : List Text} {left : Text} {cause : Malformation} {reported : Option Text} :
      left ≠ [] → dialect.round left = some (.ends (.malformed cause reported)) →
      Runs input segments left (.error ⟨input, cause, segments ++ reported.toList⟩)
  | separated {segments : List Text} {left segment next : Text}
      {result : Except SplitError (List Text)} : left ≠ [] →
      dialect.round left = some (.separated segment next) →
      Runs input (segments ++ [segment]) next result → Runs input segments left result

theorem cutAtOffset?_behind_separator (segment rest : Text) :
    Text.cutAtOffset? (segment ++ separator :: rest)
        (Text.utf8Length segment + separator.utf8Size) = some (segment ++ [separator], rest) := by
  refine Text.cutAtOffset?_eq_some_iff.mpr ⟨?_, ?_⟩
  · rw [List.append_assoc, List.singleton_append]
  · rw [Text.utf8Length_append]
    rfl

theorem cutAtOffset?_behind_opening (body : Text) :
    Text.cutAtOffset? (dialect.quote :: body) dialect.quote.utf8Size =
      some ([dialect.quote], body) :=
  Text.cutAtOffset?_eq_some_iff.mpr ⟨rfl, rfl⟩

theorem cutAtOffset?_behind_closing {body inner tail : Text}
    (cut : dialect.cutAtClosing? body = some (inner, tail)) :
    Text.cutAtOffset? (dialect.quote :: body)
        (dialect.quote.utf8Size + Text.utf8Length inner + dialect.quote.utf8Size) =
      some (dialect.quote :: inner ++ [dialect.quote], tail) := by
  refine Text.cutAtOffset?_eq_some_iff.mpr ⟨?_, ?_⟩
  · rw [dialect.cutAtClosing?_eq_some cut, List.append_assoc, List.singleton_append,
      List.cons_append]
  · rw [Text.utf8Length_append, Text.utf8Length_cons]
    rfl

theorem bareRound_eq (left : Text) : bareRound left = some (bareStep left) := by
  unfold bareRound bareStep
  rw [Text.offset?_eq_map_cutAt?]
  cases cut : Text.cutAt? separator left with
  | none => rfl
  | some parts =>
      obtain ⟨segment, rest⟩ := parts
      obtain ⟨_, rfl⟩ := Text.cutAt?_eq_some_iff.mp cut
      have size : Text.utf8Length (segment ++ separator :: rest) =
          Text.utf8Length segment + separator.utf8Size + Text.utf8Length rest := by
        rw [Text.utf8Length_append, Text.utf8Length_cons, Nat.add_assoc]
      simp only [Option.map_some, Text.cutAtOffset?_append, cutAtOffset?_behind_separator, size]
      -- The separator ends where the text does exactly if nothing is behind it.
      cases rest with
      | nil =>
          simp only [Text.utf8Length_nil, Nat.add_zero, ↓reduceIte]
      | cons c rest =>
          have positive := c.utf8Size_pos
          have more : Text.utf8Length segment + separator.utf8Size ≠
              Text.utf8Length segment + separator.utf8Size + Text.utf8Length (c :: rest) := by
            rw [Text.utf8Length_cons]
            omega
          simp only [more, ↓reduceIte]
          rfl

theorem closedRound_complete {left quoted : Text} {quotedEnd : Nat}
    (cut : Text.cutAtOffset? left quotedEnd = some (quoted, [])) :
    closedRound left quotedEnd = some (.ends (.complete (some quoted))) := by
  simp only [closedRound, cut, Option.bind_eq_bind, Option.bind_some, ↓reduceIte, Option.pure_def]

theorem closedRound_missing {left quoted tail : Text} {quotedEnd : Nat}
    (cut : Text.cutAtOffset? left quotedEnd = some (quoted, tail)) (filled : tail ≠ [])
    (free : Text.cutAt? separator tail = none) :
    closedRound left quotedEnd = some (.ends (.malformed .missingSeparator none)) := by
  have offset : Text.offset? separator tail = none := by
    rw [Text.offset?_eq_map_cutAt?, free, Option.map_none]
  simp only [closedRound, cut, Option.bind_eq_bind, Option.bind_some, filled, ↓reduceIte, offset,
    Option.pure_def]

theorem closedRound_separated {left quoted rest : Text} {quotedEnd : Nat}
    (cut : Text.cutAtOffset? left quotedEnd = some (quoted, separator :: rest)) :
    closedRound left quotedEnd = some (.separated quoted rest) := by
  have offset : Text.offset? separator (separator :: rest) = some 0 := by
    simp only [Text.offset?, ↓reduceIte]
  have next := cutAtOffset?_behind_separator [] rest
  rw [Text.utf8Length_nil, Nat.zero_add, List.nil_append] at next
  simp only [closedRound, cut, Option.bind_eq_bind, Option.bind_some, reduceCtorEq, ↓reduceIte,
    offset, next, Option.pure_def]

theorem closedRound_textBefore {left quoted tail rest : Text} {c : Char} {extra : Text}
    {quotedEnd : Nat} (cut : Text.cutAtOffset? left quotedEnd = some (quoted, tail))
    (next : Text.cutAt? separator tail = some (c :: extra, rest)) :
    closedRound left quotedEnd =
      some (.ends (.malformed .textBeforeSeparator (some (quoted ++ c :: extra)))) := by
  obtain ⟨_, rfl⟩ := Text.cutAt?_eq_some_iff.mp next
  -- The separator is not the first character of the tail, so its offset there is not zero.
  have positive := c.utf8Size_pos
  obtain ⟨before, size⟩ : ∃ before, Text.utf8Length (c :: extra) = before + 1 :=
    ⟨Text.utf8Length (c :: extra) - 1, by rw [Text.utf8Length_cons]; omega⟩
  have offset := Text.offset?_eq_some_iff.mpr ⟨_, _, next, size⟩
  have front := Text.cutAtOffset?_append (c :: extra) (separator :: rest)
  have reported := Text.cutAtOffset?_add cut front
  rw [size] at reported
  simp only [closedRound, cut, Option.bind_eq_bind, Option.bind_some, List.cons_append,
    reduceCtorEq, ↓reduceIte, Option.pure_def] at offset reported ⊢
  simp only [offset, reported, Option.bind_some]

theorem quotedRound_eq (body : Text) :
    dialect.quotedRound (dialect.quote :: body) = some (dialect.quotedStep body) := by
  unfold quotedRound quotedStep
  simp only [cutAtOffset?_behind_opening, Option.bind_eq_bind, Option.bind_some, closingFrom?_zero,
    closingOffset?]
  cases closing : dialect.cutAtClosing? body with
  | none => rfl
  | some parts =>
      obtain ⟨inner, tail⟩ := parts
      have cut := dialect.cutAtOffset?_behind_closing closing
      simp only [Option.map_some]
      cases tail with
      | nil => exact closedRound_complete cut
      | cons c tail =>
          cases next : Text.cutAt? separator (c :: tail) with
          | none => exact closedRound_missing cut (List.cons_ne_nil c tail) next
          | some parts =>
              obtain ⟨extra, rest⟩ := parts
              cases extra with
              | nil =>
                  rw [(Text.cutAt?_eq_some_iff.mp next).2] at cut
                  exact closedRound_separated cut
              | cons d extra => exact closedRound_textBefore cut next

theorem round_eq (first : Char) (text : Text) :
    dialect.round (first :: text) = some (dialect.step first text) := by
  by_cases mark : first = dialect.quote
  · subst mark
    simp only [round, List.head?_cons, ↓reduceIte, quotedRound_eq, step_quote]
  · simp only [round, List.head?_cons, Option.some.injEq, mark, ↓reduceIte, bareRound_eq,
      step_of_ne dialect mark]

variable {dialect}

theorem CutsAt.isBoundary {left : Text} {offset : Nat} (cuts : dialect.CutsAt left offset) :
    Text.IsBoundary left offset := by
  cases cuts with
  | atSeparator _ found =>
      obtain ⟨before, after, cut, rfl⟩ := Text.offset?_eq_some_iff.mp found
      rw [(Text.cutAt?_eq_some_iff.mp cut).2]
      have front := Text.cutAtOffset?_append before (separator :: after)
      exact Text.isBoundary_iff_exists_cut.mpr ⟨_, _, front⟩
  | behindSeparator _ found =>
      obtain ⟨before, after, cut, rfl⟩ := Text.offset?_eq_some_iff.mp found
      rw [(Text.cutAt?_eq_some_iff.mp cut).2]
      exact Text.isBoundary_iff_exists_cut.mpr ⟨_, _, cutAtOffset?_behind_separator before after⟩
  | behindOpening whole =>
      rw [whole]
      exact Text.isBoundary_iff_exists_cut.mpr ⟨_, _, dialect.cutAtOffset?_behind_opening _⟩
  | behindClosing whole closing =>
      rw [closingFrom?_zero] at closing
      obtain ⟨⟨inner, tail⟩, cut, rfl⟩ := Option.map_eq_some_iff.mp closing
      rw [whole]
      exact Text.isBoundary_iff_exists_cut.mpr ⟨_, _, dialect.cutAtOffset?_behind_closing cut⟩
  | behindExtra _ _ cut found =>
      -- The offset is found in the tail and counted in the whole.
      obtain ⟨before, after, next, rfl⟩ := Text.offset?_eq_some_iff.mp found
      rw [(Text.cutAt?_eq_some_iff.mp next).2] at cut
      have extra := Text.cutAtOffset?_append before (separator :: after)
      exact Text.isBoundary_iff_exists_cut.mpr ⟨_, _, Text.cutAtOffset?_add cut extra⟩
  | behindQuoted _ _ cut found =>
      obtain ⟨before, after, next, size⟩ := Text.offset?_eq_some_iff.mp found
      rw [(Text.cutAt?_eq_some_iff.mp next).2] at cut
      have behind := cutAtOffset?_behind_separator before after
      rw [size, Nat.zero_add] at behind
      exact Text.isBoundary_iff_exists_cut.mpr ⟨_, _, Text.cutAtOffset?_add cut behind⟩

theorem round_eq_some_iff {left : Text} {found : Step} (filled : left ≠ []) :
    dialect.round left = some found ↔ dialect.Opens left found := by
  cases left with
  | nil => exact absurd rfl filled
  | cons first text => rw [round_eq, Option.some_inj, step_eq_iff]

/-- A round that goes on drops a segment and the separator behind it. -/
theorem GoesOn.whole {left next : Text} (goes : dialect.GoesOn left next) :
    ∃ segment, left = segment ++ separator :: next := by
  obtain ⟨filled, segment, found⟩ := goes
  have opens := (round_eq_some_iff filled).mp found
  exact ⟨segment, (opens_separated_iff.mp opens).1⟩

theorem GoesOn.isSuffix {left next : Text} (goes : dialect.GoesOn left next) : next <:+ left := by
  obtain ⟨segment, rfl⟩ := goes.whole
  exact ⟨segment ++ [separator], by rw [List.append_assoc, List.singleton_append]⟩

theorem GoesOn.utf8Length_lt {left next : Text} (goes : dialect.GoesOn left next) :
    Text.utf8Length next < Text.utf8Length left := by
  obtain ⟨segment, rfl⟩ := goes.whole
  have positive := separator.utf8Size_pos
  rw [Text.utf8Length_append, Text.utf8Length_cons]
  omega

/-- From round to round what is left stays an end of the text. -/
theorem isSuffix_of_reflTransGen {text left : Text}
    (reached : Relation.ReflTransGen dialect.GoesOn text left) : left <:+ text := by
  induction reached with
  | refl => exact List.suffix_rfl
  | tail _ goes ih => exact goes.isSuffix.trans ih

variable (dialect)

/-- The loop comes to an end, with what the scan finds behind the segments that it has. -/
theorem runs_scan (input : Text) (segments : List Text) (left : Text) :
    dialect.Runs input segments left
      (Scan.result input ⟨segments ++ (dialect.scan left).separated,
        (dialect.scan left).ending⟩) := by
  fun_induction scan dialect left generalizing segments with
  | case1 =>
      simp only [Scan.result, List.append_nil, Option.toList_none]
      exact .done
  | case2 first text segment next read _ later ih =>
      have found := dialect.round_eq first text
      rw [read] at found
      have rest := ih (segments ++ [segment])
      rw [List.append_assoc, List.singleton_append] at rest
      exact .separated (List.cons_ne_nil first text) found rest
  | case3 first text ending read =>
      have found := dialect.round_eq first text
      rw [read] at found
      rw [List.append_nil]
      cases ending with
      | complete last => exact .complete (List.cons_ne_nil first text) found
      | malformed cause reported => exact .malformed (List.cons_ne_nil first text) found

variable {dialect} in
theorem Runs.eq_result {input left : Text} {segments : List Text}
    {result : Except SplitError (List Text)} (runs : dialect.Runs input segments left result) :
    result = Scan.result input ⟨segments ++ (dialect.scan left).separated,
      (dialect.scan left).ending⟩ := by
  induction runs with
  | done => simp only [scan_nil, Scan.result, List.append_nil, Option.toList_none]
  | complete filled found =>
      have opens := (round_eq_some_iff filled).mp found
      rw [opens.ends_of_ends.scan_eq, List.append_nil]
      rfl
  | malformed filled found =>
      have opens := (round_eq_some_iff filled).mp found
      rw [opens.ends_of_ends.scan_eq, List.append_nil]
      rfl
  | separated filled found _ ih =>
      have opens := (round_eq_some_iff filled).mp found
      rw [opens.scan_eq, ih, List.append_assoc, List.singleton_append]

/-- Whatever the text, every cut of the loop is at a boundary of what is left there, so every round
has a result. What is left is always an end of the text and gets shorter in every round that goes
on, and the loop comes to its one end with the result of splitting. -/
theorem split_cuts_at_boundaries (text : Text) :
    (∀ left, Relation.ReflTransGen dialect.GoesOn text left →
      left <:+ text ∧
      (∀ offset, dialect.CutsAt left offset →
        offset ≤ Text.utf8Length left ∧ Text.IsBoundary left offset) ∧
      (∀ first rest, left = first :: rest →
        dialect.round left = some (dialect.step first rest)) ∧
      ∀ next, dialect.GoesOn left next →
        next <:+ left ∧ Text.utf8Length next < Text.utf8Length left) ∧
    ∀ result, dialect.Runs text [] text result ↔ result = dialect.split text := by
  have runs := dialect.runs_scan text [] text
  constructor
  · intro left reached
    refine ⟨isSuffix_of_reflTransGen reached, ?_, ?_, ?_⟩
    · intro offset cuts
      exact ⟨cuts.isBoundary.le_utf8Length, cuts.isBoundary⟩
    · rintro first rest rfl
      exact dialect.round_eq first rest
    · intro next goes
      exact ⟨goes.isSuffix, goes.utf8Length_lt⟩
  · intro result
    constructor
    · intro other
      exact other.eq_result
    · rintro rfl
      exact runs

/-- A quoted segment with quotes of two bytes each is cut behind its fifth byte, and the text behind
the separator is what the next round has. -/
theorem wide_quotes_cut_at_boundaries :
    let wide : Dialect := ⟨'§', by decide⟩
    let text := ['§', 'a', '§', '.', 'b']
    wide.GoesOn text ['b'] ∧ ['b'] <:+ text ∧ Text.utf8Length ['b'] < Text.utf8Length text ∧
      wide.CutsAt text 5 ∧ Text.IsBoundary text 5 ∧
      wide.Runs text [] text (.ok [['§', 'a', '§'], ['b']]) := by
  intro wide text
  obtain ⟨rounds, ends⟩ := wide.split_cuts_at_boundaries text
  have goes : wide.GoesOn text ['b'] := ⟨nofun, ['§', 'a', '§'], rfl⟩
  have closing : wide.closingFrom? 0 ['a', '§', '.', 'b'] = some 1 := rfl
  have cuts : wide.CutsAt text (wide.quote.utf8Size + 1 + wide.quote.utf8Size) :=
    .behindClosing rfl closing
  obtain ⟨_, boundaries, _, shorter⟩ := rounds text .refl
  have reached := rounds ['b'] (.single goes)
  have result : .ok [['§', 'a', '§'], ['b']] = wide.split text := by cbv
  exact ⟨goes, reached.1, (shorter _ goes).2, cuts, (boundaries 5 cuts).2, (ends _).mpr result⟩

end Dialect

end DottedNames
