import DottedNames.Proofs.Pairing
import Mathlib.Algebra.Group.Nat.Even
import Mathlib.Data.List.Basic

set_option autoImplicit false

namespace DottedNames

namespace Dialect

variable (dialect : Dialect)

/-- Somewhere in a text stand this many quotes with no quote next to them. A run of no quotes stands
between any two other characters. -/
def HasRun (text : Text) (length : Nat) : Prop :=
  ∃ before behind, text = before ++ List.replicate length dialect.quote ++ behind ∧
    before.getLast? ≠ some dialect.quote ∧ behind.head? ≠ some dialect.quote

/-- The length of the run at the start of a text, and each character that is no quote with the
length of the run behind it. -/
structure QuoteRuns where
  first : Nat
  later : List ({ c : Char // c ≠ dialect.quote } × Nat)

def quoteRuns : Text → dialect.QuoteRuns
  | [] => ⟨0, []⟩
  | c :: rest =>
      let runs := quoteRuns rest
      if mark : c = dialect.quote then ⟨runs.first + 1, runs.later⟩
      else ⟨0, (⟨c, mark⟩, runs.first) :: runs.later⟩

theorem quoteRuns_cons_quote (rest : Text) :
    dialect.quoteRuns (dialect.quote :: rest) =
      ⟨(dialect.quoteRuns rest).first + 1, (dialect.quoteRuns rest).later⟩ := by
  simp only [quoteRuns, ↓reduceDIte]

theorem quoteRuns_cons (c : { c : Char // c ≠ dialect.quote }) (rest : Text) :
    dialect.quoteRuns (c.val :: rest) =
      ⟨0, (c, (dialect.quoteRuns rest).first) :: (dialect.quoteRuns rest).later⟩ := by
  simp only [quoteRuns, c.property, ↓reduceDIte]

theorem quoteRuns_replicate_append (length : Nat) (rest : Text) :
    dialect.quoteRuns (List.replicate length dialect.quote ++ rest) =
      ⟨length + (dialect.quoteRuns rest).first, (dialect.quoteRuns rest).later⟩ := by
  induction length with
  | zero =>
      rw [Nat.zero_add]
      rfl
  | succ length ih =>
      have longer : length + (dialect.quoteRuns rest).first + 1 =
          length + 1 + (dialect.quoteRuns rest).first := by omega
      rw [List.replicate_succ, List.cons_append, quoteRuns_cons_quote, ih, longer]

theorem first_quoteRuns {text : Text} (free : text.head? ≠ some dialect.quote) :
    (dialect.quoteRuns text).first = 0 := by
  cases text with
  | nil => rfl
  | cons c rest =>
      have plain := dialect.head?_cons_ne_iff.mp free
      rw [dialect.quoteRuns_cons ⟨c, plain⟩]

theorem doubleQuotes_replicate_append (length : Nat) (rest : Text) :
    dialect.doubleQuotes (List.replicate length dialect.quote ++ rest) =
      List.replicate (2 * length) dialect.quote ++ dialect.doubleQuotes rest := by
  induction length with
  | zero => rfl
  | succ length ih =>
      rw [List.replicate_succ, List.cons_append, doubleQuotes_cons_quote, ih, Nat.mul_succ]
      rfl

/-- Pairs are taken from the left, and of an odd run the last quote stays alone. -/
theorem undoubleQuotes_replicate_append {rest : Text} (free : rest.head? ≠ some dialect.quote)
    (length : Nat) :
    dialect.undoubleQuotes (List.replicate length dialect.quote ++ rest) =
      List.replicate ((length + 1) / 2) dialect.quote ++ dialect.undoubleQuotes rest := by
  induction length using Nat.twoStepInduction with
  | zero => rfl
  | one => exact dialect.undoubleQuotes_single free
  | more length ih _ =>
      have half : (length + 2 + 1) / 2 = (length + 1) / 2 + 1 := by omega
      rw [List.replicate_succ, List.replicate_succ, List.cons_append, List.cons_append,
        undoubleQuotes_pair, ih, half, List.replicate_succ, List.cons_append]

namespace QuoteRuns

variable {dialect}

def text (runs : dialect.QuoteRuns) : Text :=
  List.replicate runs.first dialect.quote ++
    runs.later.flatMap fun (c, length) => c.val :: List.replicate length dialect.quote

def lengths (runs : dialect.QuoteRuns) : List Nat := runs.first :: runs.later.map Prod.snd

def map (change : Nat → Nat) (runs : dialect.QuoteRuns) : dialect.QuoteRuns where
  first := change runs.first
  later := runs.later.map fun (c, length) => (c, change length)

theorem text_cons (first length : Nat) (c : { c : Char // c ≠ dialect.quote })
    (later : List ({ c : Char // c ≠ dialect.quote } × Nat)) :
    (⟨first, (c, length) :: later⟩ : dialect.QuoteRuns).text =
      List.replicate first dialect.quote ++ c.val :: (⟨length, later⟩ : dialect.QuoteRuns).text :=
  rfl

theorem doubleQuotes_text (runs : dialect.QuoteRuns) :
    dialect.doubleQuotes runs.text = (runs.map (2 * ·)).text := by
  obtain ⟨first, later⟩ := runs
  induction later generalizing first with
  | nil => exact dialect.doubleQuotes_replicate_append first []
  | cons item later ih =>
      obtain ⟨c, length⟩ := item
      rw [text_cons, doubleQuotes_replicate_append, doubleQuotes_cons_of_ne dialect c.property, ih]
      rfl

theorem undoubleQuotes_text (runs : dialect.QuoteRuns) :
    dialect.undoubleQuotes runs.text = (runs.map fun length => (length + 1) / 2).text := by
  obtain ⟨first, later⟩ := runs
  induction later generalizing first with
  | nil => exact dialect.undoubleQuotes_replicate_append dialect.head?_nil_ne first
  | cons item later ih =>
      obtain ⟨c, length⟩ := item
      rw [text_cons, dialect.undoubleQuotes_replicate_append
        (dialect.head?_cons_ne_iff.mpr c.property), undoubleQuotes_cons_of_ne dialect c.property,
        ih]
      rfl

@[simp] theorem quoteRuns_text (runs : dialect.QuoteRuns) :
    dialect.quoteRuns runs.text = runs := by
  obtain ⟨first, later⟩ := runs
  induction later generalizing first with
  | nil => exact dialect.quoteRuns_replicate_append first []
  | cons item later ih =>
      obtain ⟨c, length⟩ := item
      rw [text_cons, quoteRuns_replicate_append, quoteRuns_cons, ih]
      rfl

@[simp] theorem text_quoteRuns (text : Text) : (dialect.quoteRuns text).text = text := by
  induction text with
  | nil => rfl
  | cons c rest ih =>
      by_cases mark : c = dialect.quote
      · subst mark
        rw [quoteRuns_cons_quote]
        exact congrArg (dialect.quote :: ·) ih
      · rw [dialect.quoteRuns_cons ⟨c, mark⟩]
        exact congrArg (c :: ·) ih

theorem text_inj {runs others : dialect.QuoteRuns} : runs.text = others.text ↔ runs = others := by
  constructor
  · intro same
    rw [← quoteRuns_text runs, same, quoteRuns_text]
  · exact congrArg text

theorem map_eq_self_iff {change : Nat → Nat} {runs : dialect.QuoteRuns} :
    runs.map change = runs ↔ ∀ length ∈ runs.lengths, change length = length := by
  obtain ⟨first, later⟩ := runs
  simp only [map, lengths, mk.injEq, List.forall_mem_cons, List.forall_mem_map]
  refine and_congr_right fun _ => DottedNames.map_eq_self_iff.trans ?_
  simp only [Prod.ext_iff, true_and]

theorem doubleQuotes_undoubleQuotes_text (runs : dialect.QuoteRuns) :
    dialect.doubleQuotes (dialect.undoubleQuotes runs.text) =
      (runs.map fun length => 2 * ((length + 1) / 2)).text := by
  rw [undoubleQuotes_text, doubleQuotes_text]
  simp only [map, List.map_map]
  rfl

/-- Each run comes back on its own, and an odd one comes back longer. -/
theorem doubleQuotes_undoubleQuotes_text_eq_iff {runs : dialect.QuoteRuns} :
    dialect.doubleQuotes (dialect.undoubleQuotes runs.text) = runs.text ↔
      ∀ length ∈ runs.lengths, Even length := by
  rw [doubleQuotes_undoubleQuotes_text, text_inj, map_eq_self_iff]
  refine forall₂_congr fun length _ => ?_
  have even : 2 * ((length + 1) / 2) = length ↔ length % 2 = 0 := by omega
  exact even.trans Nat.even_iff.symm

theorem lengths_quoteRuns_append_cons (front : Text) (c : { c : Char // c ≠ dialect.quote })
    (back : Text) :
    (dialect.quoteRuns (front ++ c.val :: back)).lengths =
      (dialect.quoteRuns front).lengths ++ (dialect.quoteRuns back).lengths := by
  let before := dialect.quoteRuns front
  let behind := dialect.quoteRuns back
  let whole : dialect.QuoteRuns := ⟨before.first, before.later ++ (c, behind.first) :: behind.later⟩
  have same : whole.text = front ++ c.val :: back := by
    have parts : whole.text = before.text ++ c.val :: behind.text := by
      simp only [whole, text, List.flatMap_append, List.flatMap_cons, List.append_assoc,
        List.cons_append]
    rw [parts, text_quoteRuns, text_quoteRuns]
  rw [← same, quoteRuns_text]
  simp only [whole, before, behind, lengths, List.map_append, List.map_cons, List.cons_append]

theorem hasRun_of_mem_lengths {runs : dialect.QuoteRuns} {length : Nat}
    (member : length ∈ runs.lengths) : dialect.HasRun runs.text length := by
  obtain ⟨first, later⟩ := runs
  induction later generalizing first with
  | nil =>
      obtain rfl := List.mem_singleton.mp member
      exact ⟨[], [], rfl, dialect.head?_nil_ne, dialect.head?_nil_ne⟩
  | cons item later ih =>
      obtain ⟨c, next⟩ := item
      rcases List.mem_cons.mp member with rfl | member
      · exact ⟨[], c.val :: text ⟨next, later⟩, rfl, dialect.head?_nil_ne,
          dialect.head?_cons_ne_iff.mpr c.property⟩
      · obtain ⟨before, behind, whole, apart, free⟩ := ih next member
        refine ⟨List.replicate first dialect.quote ++ c.val :: before, behind, ?_, ?_, free⟩
        · rw [text_cons, whole]
          simp only [List.append_assoc, List.cons_append]
        · rw [List.getLast?_append, List.getLast?_cons, Option.some_or]
          cases last : before.getLast? with
          | none => exact fun same => c.property (Option.some.inj same)
          | some d =>
              rw [last] at apart
              exact apart

theorem mem_lengths_of_hasRun {text : Text} {length : Nat} (run : dialect.HasRun text length) :
    length ∈ (dialect.quoteRuns text).lengths := by
  obtain ⟨before, behind, rfl, apart, free⟩ := run
  have start :
      length ∈ (dialect.quoteRuns (List.replicate length dialect.quote ++ behind)).lengths := by
    rw [quoteRuns_replicate_append, first_quoteRuns dialect free]
    exact List.mem_cons_self
  rcases List.eq_nil_or_concat' before with rfl | ⟨front, c, rfl⟩
  · exact start
  · rw [List.getLast?_concat] at apart
    have plain : c ≠ dialect.quote := fun same => apart (congrArg some same)
    rw [List.append_assoc, List.append_assoc, List.singleton_append,
      lengths_quoteRuns_append_cons front ⟨c, plain⟩]
    exact List.mem_append_right _ start

/-- The lengths of the runs are those that can be seen in the text. -/
theorem mem_lengths_iff {runs : dialect.QuoteRuns} {length : Nat} :
    length ∈ runs.lengths ↔ dialect.HasRun runs.text length := by
  constructor
  · exact hasRun_of_mem_lengths
  · intro run
    have member := mem_lengths_of_hasRun run
    rw [quoteRuns_text] at member
    exact member

end QuoteRuns

open QuoteRuns

/-- Undoing the doubling gives back every value that was doubled. In any text it leaves of each run
of quotes half as many, rounded up, and changes nothing else, so doubling leads back to a text
exactly if all runs in it have even lengths. -/
theorem undoubleQuotes_halves_runs :
    (∀ value, dialect.undoubleQuotes (dialect.doubleQuotes value) = value) ∧
      ∀ text,
        ((dialect.quoteRuns text).text = text ∧
          ∀ length, length ∈ (dialect.quoteRuns text).lengths ↔ dialect.HasRun text length) ∧
        dialect.undoubleQuotes text =
          ((dialect.quoteRuns text).map fun length => (length + 1) / 2).text ∧
        (dialect.doubleQuotes (dialect.undoubleQuotes text) = text ↔
          ∀ length, dialect.HasRun text length → Even length) := by
  refine ⟨dialect.undoubleQuotes_doubleQuotes, fun text => ?_⟩
  obtain ⟨runs, rfl⟩ : ∃ runs : dialect.QuoteRuns, runs.text = text := ⟨_, text_quoteRuns text⟩
  rw [quoteRuns_text]
  refine ⟨⟨rfl, fun _ => mem_lengths_iff⟩, undoubleQuotes_text runs, ?_⟩
  rw [doubleQuotes_undoubleQuotes_text_eq_iff]
  exact forall_congr' fun _ => imp_congr_left mem_lengths_iff

-- Runs of three, none and two quotes: the odd one keeps two.
example : (default : Dialect).undoubleQuotes ['"', '"', '"', 'a', 'b', '"', '"'] =
    ['"', '"', 'a', 'b', '"'] := rfl

end Dialect

end DottedNames
