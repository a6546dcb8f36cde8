import DottedNames.Manifest.Yaml
import DottedNames.Proofs.Formats

set_option autoImplicit false

namespace DottedNames

theorem mapM_eq_ok_iff {σ τ ε α : Type} {Related : σ → τ → Prop} {read : σ → Except ε α}
    {IsValue : τ → α → Prop}
    (reads : ∀ source target, Related source target →
      ∀ value, read source = .ok value ↔ IsValue target value)
    {sources : List σ} {targets : List τ} (related : List.Forall₂ Related sources targets)
    {values : List α} : sources.mapM read = .ok values ↔ List.Forall₂ IsValue targets values := by
  induction related generalizing values with
  | nil =>
      constructor
      · intro read
        cases read
        exact .nil
      · rintro ⟨⟩
        rfl
  | cons first _ ih =>
      rw [List.mapM_cons, bind_eq_ok_iff]
      constructor
      · rintro ⟨value, here, rest⟩
        obtain ⟨others, later, whole⟩ := bind_eq_ok_iff.mp rest
        cases whole
        exact .cons ((reads _ _ first value).mp here) (ih.mp later)
      · intro all
        cases all with
        | cons here later =>
            have read := (reads _ _ first _).mpr here
            exact ⟨_, read, bind_eq_ok_iff.mpr ⟨_, ih.mpr later, rfl⟩⟩

namespace Manifest

namespace Node

mutual

/-- The tree of a node without tags. Literal blocks are not in trees. -/
def tree? : Node → Option Tree
  | .scalar text .plain none _ => some (.plain text)
  | .scalar text .quoted none _ => some (.quoted text)
  | .sequence items _ => (trees? items).map .sequence
  | .mapping entries _ => (treePairs? entries).map .mapping
  | _ => none

def trees? : List Node → Option (List Tree)
  | [] => some []
  | item :: rest => do return (← tree? item) :: (← trees? rest)

def treePairs? : List (Node × Node) → Option (List (Tree × Tree))
  | [] => some []
  | (key, value) :: rest => do return (← tree? key, ← tree? value) :: (← treePairs? rest)

end

def Shows (node : Node) (tree : Tree) : Prop := node.tree? = some tree

def ShowsPair (pair : Node × Node) (entry : Tree × Tree) : Prop :=
  pair.1.Shows entry.1 ∧ pair.2.Shows entry.2

theorem forall₂_of_trees? {items : List Node} {trees : List Tree}
    (shown : trees? items = some trees) : List.Forall₂ Shows items trees := by
  induction items generalizing trees with
  | nil =>
      cases shown
      exact .nil
  | cons item items ih =>
      obtain ⟨tree, first, rest⟩ := Option.bind_eq_some_iff.mp shown
      obtain ⟨others, later, whole⟩ := Option.bind_eq_some_iff.mp rest
      cases whole
      exact .cons first (ih later)

theorem forall₂_of_treePairs? {pairs : List (Node × Node)} {entries : List (Tree × Tree)}
    (shown : treePairs? pairs = some entries) : List.Forall₂ ShowsPair pairs entries := by
  induction pairs generalizing entries with
  | nil =>
      cases shown
      exact .nil
  | cons pair pairs ih =>
      obtain ⟨key, first, rest⟩ := Option.bind_eq_some_iff.mp shown
      obtain ⟨value, second, rest⟩ := Option.bind_eq_some_iff.mp rest
      obtain ⟨others, later, whole⟩ := Option.bind_eq_some_iff.mp rest
      cases whole
      exact .cons ⟨first, second⟩ (ih later)

inductive Shown : Node → Tree → Prop where
  | plain {text : Text} {line : Nat} : Shown (.scalar text .plain none line) (.plain text)
  | quoted {text : Text} {line : Nat} : Shown (.scalar text .quoted none line) (.quoted text)
  | sequence {items : List Node} {line : Nat} {trees : List Tree} :
      List.Forall₂ Shows items trees → Shown (.sequence items line) (.sequence trees)
  | mapping {pairs : List (Node × Node)} {line : Nat} {entries : List (Tree × Tree)} :
      List.Forall₂ ShowsPair pairs entries → Shown (.mapping pairs line) (.mapping entries)

variable {node : Node} {tree : Tree}

theorem Shows.shown (shows : node.Shows tree) : Shown node tree := by
  unfold Shows tree? at shows
  split at shows
  · cases shows
    exact .plain
  · cases shows
    exact .quoted
  · obtain ⟨trees, found, rfl⟩ := Option.map_eq_some_iff.mp shows
    exact .sequence (forall₂_of_trees? found)
  · obtain ⟨entries, found, rfl⟩ := Option.map_eq_some_iff.mp shows
    exact .mapping (forall₂_of_treePairs? found)
  · cases shows

theorem text_reads : Reads Shows Node.text Tree.IsText := by
  intro node tree shows value
  cases shows.shown with
  | plain =>
      constructor
      · intro read
        cases read
        exact .plain
      · rintro ⟨⟩
        rfl
  | quoted =>
      constructor
      · intro read
        cases read
        exact .quoted
      · rintro ⟨⟩
        rfl
  | sequence => exact iff_of_false nofun nofun
  | mapping => exact iff_of_false nofun nofun

theorem char_eq_ok_iff {c : Char} : node.char = .ok c ↔ node.text = .ok [c] := by
  unfold char
  split
  · simp only [text, Except.ok.injEq, List.cons.injEq, and_true]
  · rename_i other
    refine iff_of_false nofun ?_
    intro read
    cases node with
    | scalar text style tag line =>
        cases read
        exact other c style tag line rfl
    | _ => cases read

theorem char_reads : Reads Shows Node.char Tree.IsChar := by
  intro node tree shows c
  rw [char_eq_ok_iff]
  exact text_reads node tree shows [c]

theorem isWord_iff {words : List String} {text : Text} :
    isWord words text ↔ ∃ word ∈ words, word.toList = text := by
  simp only [isWord, List.any_eq_true, decide_eq_true_eq]

theorem isTruth_plain_iff {text : Text} {value : Bool} :
    Tree.IsTruth (.plain text) value ↔ isWord (Tree.truthWords value) text := by
  rw [isWord_iff]
  simp only [Tree.IsTruth, Tree.plain.injEq, eq_comm]

theorem not_isWord_false_of_true {text : Text} (yes : isWord (Tree.truthWords true) text) :
    ¬ isWord (Tree.truthWords false) text := by
  have apart : ∀ word ∈ Tree.truthWords true, ∀ other ∈ Tree.truthWords false,
      other.toList ≠ word.toList := by decide
  obtain ⟨word, spelled, rfl⟩ := isWord_iff.mp yes
  intro no
  obtain ⟨other, member, same⟩ := isWord_iff.mp no
  exact apart word spelled other member same

theorem truth_plain (text : Text) (line : Nat) : (Node.scalar text .plain none line).truth =
    if isWord (Tree.truthWords true) text then .ok true
    else if isWord (Tree.truthWords false) text then .ok false
    else .error ⟨line⟩ := rfl

theorem truth_reads : Reads Shows Node.truth Tree.IsTruth := by
  intro node tree shows value
  cases shows.shown with
  | plain =>
      rw [isTruth_plain_iff, truth_plain]
      cases value with
      | true =>
          split
          · rename_i word
            exact iff_of_true rfl word
          · rename_i other
            refine iff_of_false ?_ other
            split <;> nofun
      | false =>
          split
          · rename_i word
            exact iff_of_false nofun (not_isWord_false_of_true word)
          · split
            · rename_i word
              exact iff_of_true rfl word
            · rename_i other
              exact iff_of_false nofun other
  | quoted => exact iff_of_false nofun (fun ⟨_, _, same⟩ => nomatch same)
  | sequence => exact iff_of_false nofun (fun ⟨_, _, same⟩ => nomatch same)
  | mapping => exact iff_of_false nofun (fun ⟨_, _, same⟩ => nomatch same)

theorem isAbsent_plain_iff {text : Text} :
    Tree.IsAbsent (.plain text) ↔ text = [] ∨ isWord nullWords text := by
  rw [isWord_iff]
  simp only [Tree.IsAbsent, nullWords, Tree.plain.injEq, List.mem_cons, List.not_mem_nil, or_false,
    exists_eq_or_imp, exists_eq_left, String.toList_empty, eq_comm]
  tauto

theorem isNull_of_shows {record : Option Nat} (shows : node.Shows tree) :
    node.isNull record = .ok true ∧ tree.IsAbsent ∨
      node.isNull record = .ok false ∧ ¬ tree.IsAbsent := by
  cases shows.shown with
  | @plain text line =>
      rw [isAbsent_plain_iff]
      by_cases absent : text = [] ∨ isWord nullWords text
      · refine .inl ⟨?_, absent⟩
        simpa only [isNull, Except.ok.injEq, Bool.or_eq_true, decide_eq_true_eq] using absent
      · refine .inr ⟨?_, absent⟩
        simpa only [isNull, Except.ok.injEq, Bool.or_eq_false_iff, decide_eq_false_iff_not,
          Bool.not_eq_true, not_or] using absent
  | quoted => exact .inr ⟨rfl, fun ⟨_, _, same⟩ => nomatch same⟩
  | sequence => exact .inr ⟨rfl, fun ⟨_, _, same⟩ => nomatch same⟩
  | mapping => exact .inr ⟨rfl, fun ⟨_, _, same⟩ => nomatch same⟩

theorem optional_reads {α : Type} {read : Visitor Node α} {IsValue : Tree → α → Prop}
    (reads : ReadsPresent Shows read IsValue) (line : Option Nat) :
    Reads Shows (Node.optional line read) (Tree.IsOptional IsValue) := by
  intro node tree shows value
  rcases isNull_of_shows shows with ⟨null, absent⟩ | ⟨null, present⟩
  · have none : Node.optional line read node = .ok none := by
      rw [Node.optional, null]
      rfl
    rw [none]
    constructor
    · intro success
      cases success
      exact .absent absent
    · intro stands
      cases stands with
      | absent => rfl
      | present present => exact absurd absent present
  · have some : Node.optional line read node = (do return some (← read node)) := by
      rw [Node.optional, null]
      rfl
    rw [some, bind_eq_ok_iff]
    constructor
    · rintro ⟨inner, held, same⟩
      cases same
      exact .present present ((reads node tree shows present inner).mp held)
    · intro stands
      cases stands with
      | absent absent => exact absurd absent present
      | present _ held => exact ⟨_, (reads node tree shows present _).mpr held, rfl⟩

theorem items_reads {α : Type} {read : Visitor Node α} {IsItem : Tree → α → Prop}
    (reads : Reads Shows read IsItem) :
    ReadsPresent Shows (Node.items read) (Tree.IsListOf IsItem) := by
  intro node tree shows present values
  have refused : (∃ refusal, node.children = .error refusal) →
      Node.items read node ≠ .ok values := by
    rintro ⟨refusal, failed⟩ success
    rw [Node.items, failed] at success
    cases success
  cases shows.shown with
  | @plain text line =>
      have filled : text ≠ [] := fun empty => present (isAbsent_plain_iff.mpr (.inl empty))
      cases text with
      | nil => exact absurd rfl filled
      | cons => exact iff_of_false (refused ⟨_, rfl⟩) fun ⟨_, same, _⟩ => nomatch same
  | @quoted text line =>
      have failed : (Node.scalar text .quoted none line).children = .error ⟨line⟩ := by
        cases text <;> rfl
      exact iff_of_false (refused ⟨_, failed⟩) fun ⟨_, same, _⟩ => nomatch same
  | @sequence items line trees shown =>
      have each : items.mapM read = .ok values ↔ List.Forall₂ IsItem trees values :=
        mapM_eq_ok_iff reads shown
      constructor
      · intro success
        exact ⟨trees, rfl, each.mp success⟩
      · rintro ⟨_, ⟨⟩, held⟩
        exact each.mpr held
  | mapping => exact iff_of_false (refused ⟨_, rfl⟩) fun ⟨_, same, _⟩ => nomatch same

theorem pairs_of_shows (shows : node.Shows tree) :
    (∃ pairs entries, node.pairs = .ok pairs ∧ List.Forall₂ ShowsPair pairs entries ∧
      ∀ others, tree.HasEntries others ↔ others = entries) ∨
    (∃ refusal, node.pairs = .error refusal) ∧ ∀ entries, ¬ tree.HasEntries entries := by
  cases shows.shown with
  | @plain text line =>
      cases text with
      | nil =>
          refine .inl ⟨[], [], rfl, .nil, fun others => ?_⟩
          constructor
          · rintro ⟨⟩
            rfl
          · rintro rfl
            exact .empty
      | cons => exact .inr ⟨⟨_, rfl⟩, nofun⟩
  | @quoted text line =>
      have failed : (Node.scalar text .quoted none line).pairs = .error ⟨line⟩ := by
        cases text <;> rfl
      exact .inr ⟨⟨_, failed⟩, nofun⟩
  | sequence => exact .inr ⟨⟨_, rfl⟩, nofun⟩
  | @mapping pairs line entries shown =>
      refine .inl ⟨pairs, entries, rfl, shown, fun others => ?_⟩
      constructor
      · rintro ⟨⟩
        rfl
      · rintro rfl
        exact .mapping

/-- What is read of the pairs of a node is read of the entries of its tree. -/
theorem bind_pairs_eq_ok_iff {α : Type} (shows : node.Shows tree)
    {next : List (Node × Node) → Except Refusal α} {IsValue : List (Tree × Tree) → Prop} {value : α}
    (reads : ∀ pairs entries, List.Forall₂ ShowsPair pairs entries →
      (next pairs = .ok value ↔ IsValue entries)) :
    (node.pairs >>= next) = .ok value ↔ ∃ entries, tree.HasEntries entries ∧ IsValue entries := by
  rcases pairs_of_shows shows with ⟨pairs, entries, found, shown, only⟩ | ⟨⟨refusal, failed⟩, none⟩
  · rw [found]
    simp only [only, exists_eq_left]
    exact reads pairs entries shown
  · rw [failed]
    exact iff_of_false nofun fun ⟨entries, has, _⟩ => none entries has

theorem entries_reads {α β : Type} {readKey : Visitor Node α} {readValue : Visitor Node β}
    {IsKey : Tree → α → Prop} {IsValue : Tree → β → Prop} (keys : Reads Shows readKey IsKey)
    (values : Reads Shows readValue IsValue) :
    Reads Shows (Node.entries readKey readValue) (Tree.IsMappingOf IsKey IsValue) := by
  intro node tree shows stored
  refine bind_pairs_eq_ok_iff shows fun pairs entries shown => mapM_eq_ok_iff ?_ shown
  intro pair entry shown stored
  constructor
  · intro success
    obtain ⟨key, first, rest⟩ := bind_eq_ok_iff.mp success
    obtain ⟨value, second, same⟩ := bind_eq_ok_iff.mp rest
    cases same
    exact ⟨(keys _ _ shown.1 key).mp first, (values _ _ shown.2 value).mp second⟩
  · rintro ⟨first, second⟩
    have key := (keys _ _ shown.1 _).mpr first
    have value := (values _ _ shown.2 _).mpr second
    exact bind_eq_ok_iff.mpr ⟨_, key, bind_eq_ok_iff.mpr ⟨_, value, rfl⟩⟩

section Records

variable {φ ρ : Type} [DecidableEq φ] {type : RecordType φ ρ}
  {read : (field : φ) → Option Nat → Visitor Node (type.Value field)}
  {Holds : (field : φ) → Tree → type.Value field → Prop}
  {line : Option Nat} {seen : List φ} {start result : ρ}

theorem readFields_cons_eq_ok_iff {key value : Node} {pairs : List (Node × Node)} {field : φ}
    (found : key.text = .ok (type.label field)) :
    readFields type read line seen start ((key, value) :: pairs) = .ok result ↔
      field ∉ seen ∧ ∃ held, read field line value = .ok held ∧
        readFields type read line (field :: seen) (type.set start field held) pairs =
          .ok result := by
  have label : type.ofLabel? (type.label field) = some field :=
    type.ofLabel?_eq_some_iff.mpr rfl
  simp only [readFields, found, bind, Except.bind, label]
  by_cases repeated : field ∈ seen
  · rw [if_pos repeated]
    exact iff_of_false nofun fun ⟨fresh, _⟩ => fresh repeated
  · rw [if_neg repeated, and_iff_right repeated]
    exact bind_eq_ok_iff

theorem readFields_cons_eq_ok_iff_of_unknown {key value : Node} {pairs : List (Node × Node)}
    {text : Text} (found : key.text = .ok text) (unknown : ∀ field, text ≠ type.label field) :
    readFields type read line seen start ((key, value) :: pairs) = .ok result ↔
      type.closed = false ∧ readFields type read line seen start pairs = .ok result := by
  have label : type.ofLabel? text = none := by
    refine Option.eq_none_iff_forall_not_mem.mpr fun field listed => ?_
    exact unknown field (type.ofLabel?_eq_some_iff.mp listed)
  simp only [readFields, found, bind, Except.bind, label]
  cases type.closed with
  | true => exact iff_of_false nofun nofun
  | false =>
      rw [if_neg Bool.false_ne_true]
      exact (and_iff_right rfl).symm

/-- Behind fields that were read, the pairs are read if none of them is for one of these fields, and
they make the record that they describe. -/
theorem readFields_eq_ok_iff (reads : ∀ field line, Reads Shows (read field line) (Holds field))
    {pairs : List (Node × Node)} {entries : List (Tree × Tree)}
    (shown : List.Forall₂ ShowsPair pairs entries) :
    readFields type read line seen start pairs = .ok result ↔
      (∀ field ∈ seen, ∀ entry ∈ entries, ¬ type.IsFor field entry) ∧
        type.Describes Holds entries start result := by
  induction shown generalizing seen start with
  | nil =>
      rw [RecordType.describes_nil_iff]
      constructor
      · intro read
        cases read
        exact ⟨fun _ _ => nofun, rfl⟩
      · rintro ⟨_, rfl⟩
        rfl
  | @cons pair entry pairs entries first _ ih =>
      have keyIff := text_reads pair.1 entry.1 first.1
      simp only [List.forall_mem_cons, forall_and]
      by_cases known : ∃ field, type.IsFor field entry
      · obtain ⟨field, here⟩ := known
        rw [readFields_cons_eq_ok_iff ((keyIff _).mpr here), here.forall_not_iff,
          RecordType.describes_cons_iff here, and_assoc]
        refine and_congr_right fun _ => ?_
        simp only [ih, List.forall_mem_cons, reads field line _ _ first.2]
        constructor
        · rintro ⟨value, holds, ⟨alone, apart⟩, describes⟩
          exact ⟨apart, alone, value, holds, describes⟩
        · rintro ⟨apart, alone, value, holds, describes⟩
          exact ⟨value, holds, ⟨alone, apart⟩, describes⟩
      · have unknown := not_exists.mp known
        rw [RecordType.describes_cons_iff_of_unknown unknown]
        by_cases keyed : ∃ text, entry.1.IsText text
        · obtain ⟨text, isText⟩ := keyed
          have others : ∀ field, text ≠ type.label field := by
            rintro field rfl
            exact unknown field isText
          rw [readFields_cons_eq_ok_iff_of_unknown ((keyIff text).mpr isText) others, ih]
          constructor
          · rintro ⟨isOpen, apart, describes⟩
            exact ⟨⟨fun other _ => unknown other, apart⟩, ⟨isOpen, text, isText⟩, describes⟩
          · rintro ⟨⟨_, apart⟩, ⟨isOpen, _⟩, describes⟩
            exact ⟨isOpen, apart, describes⟩
        · refine iff_of_false ?_ fun ⟨_, ⟨_, text⟩, _⟩ => keyed text
          intro success
          obtain ⟨text, found, _⟩ := bind_eq_ok_iff.mp success
          exact keyed ⟨text, (keyIff text).mp found⟩

theorem record_reads (reads : ∀ field line, Reads Shows (read field line) (Holds field)) :
    Reads Shows (Node.record type read) (type.IsRecord Holds) := by
  intro node tree shows result
  refine bind_pairs_eq_ok_iff shows fun pairs entries shown => ?_
  rw [readFields_eq_ok_iff reads shown]
  exact and_iff_right nofun

end Records

end Node

namespace Document

/-- The tree of a document that is readable to its end, with no other behind it. -/
def tree? (document : Document) : Option Tree :=
  if document.fault.isSome || document.continues then none
  else (document.root.getD (.empty 0)).tree?

def IsOf (text : Text) (tree : Tree) : Prop := (ofText text).tree? = some tree

theorem read_eq_ok_iff {document : Document} {tree : Tree} (shown : document.tree? = some tree)
    {α : Type} {visit : Visitor Node α} {value : α} :
    document.read visit = .ok value ↔ visit (document.root.getD (.empty 0)) = .ok value := by
  obtain ⟨root, fault, continues⟩ := document
  cases fault with
  | some line => cases shown
  | none =>
      cases continues with
      | true => cases shown
      | false =>
          rw [read, bind_eq_ok_iff]
          constructor
          · rintro ⟨value, held, same⟩
            cases same
            exact held
          · intro held
            exact ⟨value, held, rfl⟩

theorem shows_of_tree? {document : Document} {tree : Tree} (shown : document.tree? = some tree) :
    (document.root.getD (.empty 0)).Shows tree := by
  unfold tree? at shown
  split at shown
  · cases shown
  · exact shown

end Document

theorem Format.yaml_lawful : Format.yaml.Lawful Document.IsOf Node.Shows where
  document shown :=
    ⟨_, Document.shows_of_tree? shown, fun _ _ => Document.read_eq_ok_iff shown⟩
  text := Node.text_reads
  char := Node.char_reads
  truth := Node.truth_reads
  optional reads line := Node.optional_reads reads line
  items := Node.items_reads
  entries := Node.entries_reads
  record := Node.record_reads

end Manifest

end DottedNames
