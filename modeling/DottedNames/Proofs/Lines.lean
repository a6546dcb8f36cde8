import DottedNames.Command.Report
import Mathlib.Data.List.Basic
import Mathlib.Data.List.Forall2

set_option autoImplicit false

namespace DottedNames

namespace Text

theorem dropReturn_of_getLast?_ne {line : Text} (plain : line.getLast? ≠ some '\r') :
    dropReturn line = line := if_neg plain

theorem dropReturn_sublist (line : Text) : (dropReturn line).Sublist line := by
  by_cases ends : line.getLast? = some '\r'
  · rw [dropReturn, if_pos ends]
    exact List.dropLast_sublist line
  · rw [dropReturn_of_getLast?_ne ends]

theorem length_dropReturn_lt {line : Text} (ends : line.getLast? = some '\r') :
    (dropReturn line).length < line.length := by
  obtain ⟨front, rfl⟩ := List.getLast?_eq_some_iff.mp ends
  rw [dropReturn, if_pos ends, List.dropLast_concat, List.length_append, List.length_singleton]
  exact Nat.lt_succ_self _

theorem dropReturn_eq_self_iff {line : Text} :
    dropReturn line = line ↔ line.getLast? ≠ some '\r' := by
  constructor
  · intro same ends
    have shorter := length_dropReturn_lt ends
    rw [same] at shorter
    omega
  · exact dropReturn_of_getLast?_ne

theorem dropReturn_dropReturn_eq_self_iff {line : Text} :
    dropReturn (dropReturn line) = line ↔ line.getLast? ≠ some '\r' := by
  constructor
  · intro same ends
    have shorter := length_dropReturn_lt ends
    have noLonger := (dropReturn_sublist (dropReturn line)).length_le
    rw [same] at noLonger
    omega
  · intro plain
    rw [dropReturn_of_getLast?_ne plain, dropReturn_of_getLast?_ne plain]

theorem dropReturn_concat (line : Text) : dropReturn (line ++ ['\r']) = line := by
  rw [dropReturn, if_pos List.getLast?_concat, List.dropLast_concat]

theorem lines_nil : lines [] = [] := by rw [lines]; rfl

theorem lines_append_feed {line : Text} (free : '\n' ∉ line) (rest : Text) :
    lines (line ++ '\n' :: rest) = dropReturn line :: lines rest := by
  have found : cutAt? '\n' (line ++ '\n' :: rest) = some (line, rest) :=
    cutAt?_eq_some_iff.mpr ⟨free, rfl⟩
  rw [lines]
  split
  · rename_i none
    cases none.symm.trans found
  · rename_i before after cut
    cases cut.symm.trans found
    rfl

theorem lines_of_feed_not_mem {line : Text} (filled : line ≠ []) (free : '\n' ∉ line) :
    lines line = [line] := by
  have none : cutAt? '\n' line = none := cutAt?_eq_none_iff.mpr free
  rw [lines]
  split
  · rw [if_neg filled]
  · rename_i before after cut
    cases cut.symm.trans none

theorem feed_not_mem_of_mem_lines {text line : Text} (member : line ∈ lines text) :
    '\n' ∉ line := by
  fun_induction lines text with
  | case1 cut =>
      cases member
  | case2 text cut filled =>
      rw [List.mem_singleton.mp member]
      exact cutAt?_eq_none_iff.mp cut
  | case3 text before after cut _ ih =>
      rcases List.mem_cons.mp member with rfl | member
      · exact fun inside =>
          (cutAt?_eq_some_iff.mp cut).1 ((dropReturn_sublist before).subset inside)
      · exact ih member

end Text

open Command (linesText)

theorem linesText_cons (line : Text) (rest : List Text) :
    linesText (line :: rest) = line ++ '\n' :: linesText rest := by
  simp only [linesText, List.flatMap_cons, List.append_assoc, List.singleton_append]

theorem linesText_append (front back : List Text) :
    linesText (front ++ back) = linesText front ++ linesText back := List.flatMap_append

theorem mem_nameLines {content name : Text} (member : name ∈ nameLines content) :
    name ≠ [] ∧ '\n' ∉ name := by
  obtain ⟨inside, filled⟩ := List.mem_filter.mp member
  obtain ⟨line, read, rfl⟩ := List.mem_map.mp inside
  have free := Text.feed_not_mem_of_mem_lines read
  exact ⟨of_decide_eq_true filled, fun feed => free ((Text.dropReturn_sublist line).subset feed)⟩

inductive LineEnd where
  | feed
  | returnFeed

namespace LineEnd

def text : LineEnd → Text
  | .feed => ['\n']
  | .returnFeed => ['\r', '\n']

/-- What is read of a line with this end. Where nothing is left of it, the line is skipped. -/
def strip : LineEnd → Text → Text
  | .feed, line => Text.dropReturn (Text.dropReturn line)
  | .returnFeed, line => Text.dropReturn line

theorem strip_eq_self_iff {ending : LineEnd} {line : Text} :
    ending.strip line = line ↔ line.getLast? ≠ some '\r' := by
  cases ending with
  | feed => exact Text.dropReturn_dropReturn_eq_self_iff
  | returnFeed => exact Text.dropReturn_eq_self_iff

end LineEnd

/-- A content in which texts that are not empty and hold no line feed stand one on a line. Each line
ends in its own way, and the last one in the content may lack an end. Blank lines may stand before,
between and behind the lines that have one. -/
inductive Framed : List Text → Text → Prop where
  | nothing : Framed [] []
  | unended {text : Text} : text ≠ [] → '\n' ∉ text → Framed [text] text
  | blank {texts : List Text} {content : Text} (ending : LineEnd) :
      Framed texts content → Framed texts (ending.text ++ content)
  | line {text content : Text} {texts : List Text} (ending : LineEnd) :
      text ≠ [] → '\n' ∉ text → Framed texts content →
      Framed (text :: texts) (text ++ ending.text ++ content)

theorem Framed.shape {texts : List Text} {content : Text} (framed : Framed texts content) :
    ∀ text ∈ texts, text ≠ [] ∧ '\n' ∉ text := by
  induction framed with
  | nothing => exact List.forall_mem_nil _
  | unended filled free => exact List.forall_mem_singleton.mpr ⟨filled, free⟩
  | blank _ _ ih => exact ih
  | line _ filled free _ ih => exact List.forall_mem_cons.mpr ⟨⟨filled, free⟩, ih⟩

theorem framed_linesText {texts : List Text}
    (shape : ∀ text ∈ texts, text ≠ [] ∧ '\n' ∉ text) : Framed texts (linesText texts) := by
  induction texts with
  | nil => exact .nothing
  | cons text texts ih =>
      obtain ⟨⟨filled, free⟩, later⟩ := List.forall_mem_cons.mp shape
      have framed := Framed.line .feed filled free (ih later)
      rw [List.append_assoc] at framed
      rw [linesText_cons]
      exact framed

theorem nameLines_append_feed {line : Text} (free : '\n' ∉ line) (rest : Text) :
    nameLines (line ++ '\n' :: rest) =
      [Text.dropReturn (Text.dropReturn line)].filter (· ≠ []) ++ nameLines rest := by
  rw [nameLines, Text.lines_append_feed free, List.map_cons, ← List.singleton_append,
    List.filter_append]
  rfl

/-- A line is read on its own, and then the rest. -/
theorem nameLines_line {line : Text} (free : '\n' ∉ line) (ending : LineEnd) (rest : Text) :
    nameLines (line ++ ending.text ++ rest) =
      [ending.strip line].filter (· ≠ []) ++ nameLines rest := by
  cases ending with
  | feed =>
      rw [List.append_assoc]
      exact nameLines_append_feed free rest
  | returnFeed =>
      have both : '\n' ∉ line ++ ['\r'] := by
        simp only [List.mem_append, List.mem_singleton, free, false_or]
        decide
      have read := nameLines_append_feed both rest
      rw [Text.dropReturn_concat, List.append_assoc] at read
      rw [List.append_assoc]
      exact read

/-- Every text is read from its own line, and comes out the same unless it ends in a carriage
return. -/
theorem Framed.exists_reads {texts : List Text} {content : Text} (framed : Framed texts content) :
    ∃ reads : List Text, nameLines content = reads.filter (· ≠ []) ∧
      List.Forall₂ (fun text read => read = text ↔ text.getLast? ≠ some '\r') texts reads := by
  induction framed with
  | nothing => exact ⟨[], by rw [nameLines, Text.lines_nil]; rfl, .nil⟩
  | unended filled free =>
      refine ⟨[Text.dropReturn _], ?_, .cons Text.dropReturn_eq_self_iff .nil⟩
      rw [nameLines, Text.lines_of_feed_not_mem filled free]
      rfl
  | @blank _ content ending _ ih =>
      obtain ⟨reads, same, each⟩ := ih
      refine ⟨reads, ?_, each⟩
      have skipped : [ending.strip []].filter (· ≠ []) = [] := by cases ending <;> rfl
      have read := nameLines_line List.not_mem_nil ending content
      rw [skipped, List.nil_append, List.nil_append, same] at read
      exact read
  | line ending _ free _ ih =>
      obtain ⟨reads, same, each⟩ := ih
      refine ⟨ending.strip _ :: reads, ?_, .cons LineEnd.strip_eq_self_iff each⟩
      rw [nameLines_line free, same, ← List.filter_append, List.singleton_append]

theorem eq_of_forall₂_iff {P : Text → Prop} {texts reads : List Text}
    (each : List.Forall₂ (fun text read => read = text ↔ P text) texts reads) :
    reads = texts ↔ ∀ text ∈ texts, P text := by
  induction each with
  | nil => exact iff_of_true rfl (List.forall_mem_nil P)
  | cons here _ ih => rw [List.cons.injEq, List.forall_mem_cons, here, ih]

/-- Texts that stand one on a line are read exactly if none of them ends in a carriage return. -/
theorem Framed.nameLines_eq_iff {texts : List Text} {content : Text}
    (framed : Framed texts content) :
    nameLines content = texts ↔ ∀ text ∈ texts, text.getLast? ≠ some '\r' := by
  obtain ⟨reads, same, each⟩ := framed.exists_reads
  rw [same, ← eq_of_forall₂_iff each]
  constructor
  · intro all
    -- As many texts came back as there are lines for them, so none of these was skipped.
    have count : (reads.filter (· ≠ [])).length = reads.length := by rw [all, each.length_eq]
    have kept := List.filter_eq_self.mpr (List.length_filter_eq_length_iff.mp count)
    exact kept.symm.trans all
  · rintro rfl
    exact List.filter_eq_self.mpr fun read member => decide_eq_true (framed.shape read member).1

/-- Texts written one on a line are read back exactly if none of them is empty, holds a line feed or
ends in a carriage return. -/
theorem nameLines_linesText_iff {texts : List Text} :
    nameLines (linesText texts) = texts ↔
      ∀ text ∈ texts, text ≠ [] ∧ '\n' ∉ text ∧ text.getLast? ≠ some '\r' := by
  constructor
  · intro same
    have shape : ∀ text ∈ texts, text ≠ [] ∧ '\n' ∉ text := by
      rw [← same]
      exact fun _ => mem_nameLines
    have plain := (framed_linesText shape).nameLines_eq_iff.mp same
    intro text member
    exact ⟨(shape text member).1, (shape text member).2, plain text member⟩
  · intro plain
    have shape : ∀ text ∈ texts, text ≠ [] ∧ '\n' ∉ text := fun text member =>
      ⟨(plain text member).1, (plain text member).2.1⟩
    exact (framed_linesText shape).nameLines_eq_iff.mpr fun text member => (plain text member).2.2

-- A closing quote that is a carriage return is taken for part of the line's end.
example : nameLines (linesText [['\r', 'a', '\r']]) = [['\r', 'a']] := by cbv

end DottedNames
