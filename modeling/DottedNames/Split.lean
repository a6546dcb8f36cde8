import DottedNames.Segment

set_option autoImplicit false

namespace DottedNames

/-- What is wrong with the text at the place where a scan stops. -/
inductive Malformation where
  /-- A quoted segment never closes. -/
  | unterminatedQuote
  /-- A bare segment is followed by a separator and nothing else. -/
  | trailingSeparator
  /-- Text follows a closing quote and no separator comes after it. -/
  | missingSeparator
  /-- Text stands between a closing quote and the next separator. -/
  | textBeforeSeparator
deriving DecidableEq

def Malformation.message : Malformation → Text
  | .unterminatedQuote => "unterminated quoted segment".toList
  | .trailingSeparator => "trailing separator without following content".toList
  | .missingSeparator => "content after closing quote must be followed by a separator".toList
  | .textBeforeSeparator => "unexpected characters between closing quote and separator".toList

/-- `recovered` holds the segments read before the failure. They are for diagnosis: a name that
cannot be split has no segments. -/
structure SplitError where
  input : Text
  cause : Malformation
  recovered : List Text
deriving DecidableEq

def SplitError.message (error : SplitError) : Text :=
  "malformed name `".toList ++ error.input ++ "`: ".toList ++ error.cause.message

/-- How a scan ends: with its last segment, unless the text ended before one, or with a malformed
rest. `offending` is the text at fault where a report shows it. -/
inductive Ending where
  | complete (last : Option Text)
  | malformed (cause : Malformation) (offending : Option Text)
deriving DecidableEq

/-- What the start of a text holds: a segment with a separator after it, or the end of the scan. -/
inductive Step where
  | separated (segment rest : Text)
  | ends (ending : Ending)
deriving DecidableEq

structure Scan where
  /-- The segments that were followed by a separator. -/
  separated : List Text
  ending : Ending
deriving DecidableEq

def Scan.result (input : Text) (scan : Scan) : Except SplitError (List Text) :=
  match scan.ending with
  | .complete last => .ok (scan.separated ++ last.toList)
  | .malformed cause offending =>
      .error { input, cause, recovered := scan.separated ++ offending.toList }

namespace Dialect

variable (dialect : Dialect)

/-- A bare segment runs to the next separator, which has to be followed by more text. -/
def bareStep (text : Text) : Step :=
  match Text.cutAt? separator text with
  | none => .ends (.complete (some text))
  | some (_, []) => .ends (.malformed .trailingSeparator none)
  | some (segment, rest) => .separated segment rest

/-- After the opening quote: a quoted segment runs to its closing quote, which ends the text or
stands right before a separator. -/
def quotedStep (body : Text) : Step :=
  match dialect.cutAtClosing? body with
  | none => .ends (.malformed .unterminatedQuote (some (dialect.quote :: body)))
  | some (inner, tail) =>
      let segment := dialect.quote :: inner ++ [dialect.quote]
      match tail with
      | [] => .ends (.complete (some segment))
      | _ :: _ =>
          match Text.cutAt? separator tail with
          | none => .ends (.malformed .missingSeparator none)
          | some ([], rest) => .separated segment rest
          | some (extra, _) => .ends (.malformed .textBeforeSeparator (some (segment ++ extra)))

def step (first : Char) (rest : Text) : Step :=
  if first = dialect.quote then dialect.quotedStep rest else bareStep (first :: rest)

theorem bareStep_rest_shorter {text segment rest : Text}
    (read : bareStep text = .separated segment rest) : rest.length < text.length := by
  unfold bareStep at read
  split at read
  · simp at read
  · simp at read
  · rename_i front back _ cut
    obtain ⟨rfl, rfl⟩ := Step.separated.inj read
    exact Text.cutAt?_shorter cut

theorem quotedStep_rest_shorter {body segment rest : Text}
    (read : dialect.quotedStep body = .separated segment rest) : rest.length < body.length := by
  unfold quotedStep at read
  split at read
  · simp at read
  · rename_i inner tail closing
    have whole := dialect.cutAtClosing?_eq_some closing
    simp only at read
    split at read
    · simp at read
    · split at read
      · simp at read
      · rename_i back cut
        obtain ⟨_, rfl⟩ := Step.separated.inj read
        have shorter := Text.cutAt?_shorter cut
        simp only [whole, List.length_append, List.length_cons] at shorter ⊢
        omega
      · simp at read

theorem step_rest_shorter {first : Char} {text segment rest : Text}
    (read : dialect.step first text = .separated segment rest) :
    rest.length < (first :: text).length := by
  unfold step at read
  split at read
  · exact Nat.lt_succ_of_lt (dialect.quotedStep_rest_shorter read)
  · exact bareStep_rest_shorter read

/-- Reads segments up to the end of the text or to what is malformed. -/
def scan : Text → Scan
  | [] => ⟨[], .complete none⟩
  | first :: text =>
      match read : dialect.step first text with
      | .separated segment rest =>
          have := dialect.step_rest_shorter read
          let later := scan rest
          ⟨segment :: later.separated, later.ending⟩
      | .ends ending => ⟨[], ending⟩
termination_by text => text.length
decreasing_by assumption

@[simp] theorem scan_nil : dialect.scan [] = ⟨[], .complete none⟩ := by rw [scan]

theorem scan_of_separated {first : Char} {text segment rest : Text}
    (read : dialect.step first text = .separated segment rest) :
    dialect.scan (first :: text) =
      ⟨segment :: (dialect.scan rest).separated, (dialect.scan rest).ending⟩ := by
  rw [scan]
  split
  · rename_i other after found
    obtain ⟨rfl, rfl⟩ := Step.separated.inj (found.symm.trans read)
    rfl
  · rename_i ending found
    cases found.symm.trans read

theorem scan_of_ends {first : Char} {text : Text} {ending : Ending}
    (read : dialect.step first text = .ends ending) :
    dialect.scan (first :: text) = ⟨[], ending⟩ := by
  rw [scan]
  split
  · rename_i segment rest found
    cases found.symm.trans read
  · rename_i other found
    rw [Step.ends.inj (found.symm.trans read)]

/-- The raw segments of a dotted name, outermost first. Quoted ones keep their quotes. -/
def split (text : Text) : Except SplitError (List Text) :=
  (dialect.scan text).result text

end Dialect

end DottedNames
