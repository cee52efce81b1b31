/-
Patterns for headers.

A pattern that consists of `^`, plain characters and `.*$` is read as the expression one expects,
and that matches exactly the lines which begin with the plain characters.
-/

import FixtureRunner.Pattern.Meaning
import FixtureRunner.Proofs.Pattern.Matching

namespace FixtureRunner.Pattern

/-- The character stands for itself in a pattern. -/
def IsPlain (char : Char) : Prop :=
  char ∉ ['\\', '.', '^', '$', '(', ')', '|', '[', '?', '*', '+', '{']

instance (char : Char) : Decidable (IsPlain char) :=
  inferInstanceAs (Decidable (char ∉ _))

/-- Some characters, and whatever follows them up to the end of the text. -/
def throughHeader : Text → Expression
  | [] =>
      .sequence (.repetition 0 none (.one fun char => char ≠ '\n'))
        (.sequence (.look .stop) .empty)
  | char :: rest => .sequence (.one (· = char)) (throughHeader rest)

def headerExpression (header : Text) : Expression :=
  .sequence (.look .start) (throughHeader header)

/-! ### Reading -/

namespace Reader

variable {cursor after : Cursor} {rest : Text} {char : Char}

theorem run_bind_ok {α β : Type} {read : Reader α} {value : α} (next : α → Reader β)
    (ran : read.run cursor = .ok (value, after)) :
    (read >>= next).run cursor = (next value).run after := by
  rw [StateT.run_bind, ran]
  rfl

theorem run_current (cursor : Cursor) : current.run cursor = .ok (cursor.rest.head?, cursor) := rfl

theorem run_charSpan (cursor : Cursor) :
    charSpan.run cursor = .ok (⟨cursor.position, cursor.next.position⟩, cursor) := rfl

theorem run_here (cursor : Cursor) : here.run cursor = .ok (cursor.position, cursor) := rfl

theorem run_spanFrom (start : Position) (cursor : Cursor) :
    (spanFrom start).run cursor = .ok (⟨start, cursor.position⟩, cursor) := rfl

theorem run_bump (cursor : Cursor) :
    bump.run cursor = .ok (!cursor.next.rest.isEmpty, cursor.next) := rfl

theorem run_skipBlanks (isTerse : cursor.verbose = false) :
    skipBlanks.run cursor = .ok ((), cursor) := by
  have stays : cursor.skip = cursor := by
    rw [Cursor.skip, isTerse]
    rfl
  have moves : skipBlanks.run cursor = .ok ((), cursor.skip) := rfl
  rw [moves, stays]

def literalAt (cursor : Cursor) (char : Char) : Node :=
  .literal { span := ⟨cursor.position, cursor.next.position⟩, char }

theorem run_primitive_plain (isPlain : IsPlain char) (isRest : cursor.rest = char :: rest) :
    primitive.run cursor =
      .ok (.literal { span := ⟨cursor.position, cursor.next.position⟩, char }, cursor.next) := by
  rw [primitive, run_bind_ok _ (run_charSpan cursor), run_bind_ok _ (run_current cursor), isRest,
    List.head?_cons]
  split
  case h_5 =>
    rw [run_bind_ok _ (run_bump cursor)]
    rfl
  all_goals
    rename_i same
    cases same
    exact absurd (by decide) isPlain

theorem run_elements_primitive {read : Primitive} (isRest : cursor.rest = char :: rest)
    (isTerse : cursor.verbose = false)
    (isElement : [')', '|', '(', '[', '?', '*', '+', '{'].contains char = false)
    (isRead : primitive.run cursor = .ok (read, after)) (room : Nat) (parts : List Node) :
    (elements (room + 1) parts).run cursor = (elements room (read.node :: parts)).run after := by
  rw [elements, run_bind_ok _ (run_skipBlanks isTerse), run_bind_ok _ (run_current cursor), isRest,
    List.head?_cons]
  split
  case h_10 => rw [run_bind_ok _ isRead]
  all_goals
    rename_i same
    cases same
  all_goals cases isElement

theorem run_elements_plain (isPlain : IsPlain char) (isRest : cursor.rest = char :: rest)
    (isTerse : cursor.verbose = false) (room : Nat) (parts : List Node) :
    (elements (room + 1) parts).run cursor =
      (elements room (literalAt cursor char :: parts)).run cursor.next := by
  have isElement : [')', '|', '(', '[', '?', '*', '+', '{'].contains char = false := by
    unfold IsPlain at isPlain
    simp only [List.mem_cons, not_or] at isPlain
    simp [isPlain]
  rw [run_elements_primitive isRest isTerse isElement (run_primitive_plain isPlain isRest)]
  rfl

/-- The nodes stand for the expression, change no flag and are not nested deeply. -/
structure StandFor (nodes : List Node) (expression : Expression) : Prop where
  isMeant : Node.sequence {} nodes = .ok (expression, {})
  isShallow : Node.anyTooDeep (nestingLimit - 1) nodes = none

theorem StandFor.cons {node : Node} {nodes : List Node} {first expression : Expression}
    (isMeant : node.expression {} = .ok (first, {}))
    (isShallow : node.tooDeep (nestingLimit - 1) = none) (others : StandFor nodes expression) :
    StandFor (node :: nodes) (.sequence first expression) := by
  constructor
  · rw [Node.sequence, isMeant]
    simp only [bind, Except.bind, others.isMeant]
    rfl
  · rw [Node.anyTooDeep, isShallow, others.isShallow]
    rfl

/-- Reads the rest of a header and what follows it. -/
theorem run_elements_header {header : Text} (arePlain : ∀ char ∈ header, IsPlain char) (room : Nat)
    (parts : List Node) (isRest : cursor.rest = header ++ ['.', '*', '$'])
    (isTerse : cursor.verbose = false) :
    ∃ nodes after, (elements (header.length + (room + 4)) parts).run cursor =
        .ok (nodes.reverse ++ parts, after) ∧ after.rest = [] ∧ nodes ≠ [] ∧
      StandFor nodes (throughHeader header) := by
  induction header generalizing cursor parts with
  | nil =>
      obtain ⟨_, position, verbose, names⟩ := cursor
      simp only [List.nil_append] at isRest isTerse
      subst isRest isTerse
      rw [List.length_nil, Nat.zero_add]
      refine ⟨[.repetition _ 0 none (.dot _), .assertion _ .endLine], _, rfl, rfl, ?_, rfl, rfl⟩
      exact List.cons_ne_nil _ _
  | cons char rest ih =>
      have isPlain : IsPlain char := arePlain char List.mem_cons_self
      have isNext : cursor.next.rest = rest ++ ['.', '*', '$'] := by
        rw [Cursor.next, isRest]
        rfl
      have isTerseStill : cursor.next.verbose = false := by
        rw [Cursor.next, isRest]
        exact isTerse
      obtain ⟨nodes, after, ran, isEnd, _, standFor⟩ :=
        ih (fun other isThere => arePlain other (List.mem_cons_of_mem _ isThere))
          (literalAt cursor char :: parts) isNext isTerseStill
      refine ⟨literalAt cursor char :: nodes, after, ?_, isEnd, List.cons_ne_nil _ _,
        standFor.cons rfl rfl⟩
      rw [List.length_cons, Nat.succ_add, run_elements_plain isPlain isRest isTerse, ran,
        List.reverse_cons, List.append_assoc]
      rfl

theorem run_branch {room : Nat} {parts : List Node}
    (areRead : (elements room []).run cursor = .ok (parts, after)) :
    (branch (room + 1)).run cursor =
      .ok (concatenated ⟨cursor.position, after.position⟩ parts.reverse, after) := by
  rw [branch, run_bind_ok _ (run_here cursor), run_bind_ok _ areRead,
    run_bind_ok _ (run_spanFrom cursor.position after)]
  rfl

theorem run_alternation {room : Nat} {node : Node}
    (isRead : (branch (room + 1)).run cursor = .ok (node, after)) (isEnd : after.rest = []) :
    (alternation (room + 2)).run cursor = .ok (node, after) := by
  have noOthers : (moreBranches (room + 1)).run after = .ok ([], after) := by
    rw [moreBranches, run_bind_ok _ (run_current after), isEnd]
    rfl
  rw [alternation, run_bind_ok _ (run_here cursor), run_bind_ok _ isRead, run_bind_ok _ noOthers]
  rfl

theorem run_primitive_caret (isRest : cursor.rest = '^' :: rest) :
    primitive.run cursor =
      .ok (.assertion ⟨cursor.position, cursor.next.position⟩ .startLine, cursor.next) := by
  rw [primitive, run_bind_ok _ (run_charSpan cursor), run_bind_ok _ (run_current cursor), isRest]
  rfl

theorem run_pattern_header {header : Text} (arePlain : ∀ char ∈ header, IsPlain char)
    (isRest : cursor.rest = '^' :: (header ++ ['.', '*', '$'])) (isTerse : cursor.verbose = false) :
    ∃ span nodes after, pattern.run cursor = .ok (.concatenation span nodes, after) ∧
      StandFor nodes (headerExpression header) := by
  have isNext : cursor.next.rest = header ++ ['.', '*', '$'] := by
    rw [Cursor.next, isRest]
  have isTerseStill : cursor.next.verbose = false := by
    rw [Cursor.next, isRest]
    exact isTerse
  obtain ⟨nodes, after, ran, isEnd, isMore, standFor⟩ :=
    run_elements_header arePlain (3 * header.length + 13) [.assertion _ .startLine] isNext
      isTerseStill
  have areRead := run_elements_primitive isRest isTerse (by decide) (run_primitive_caret isRest)
    (header.length + (3 * header.length + 13 + 4)) []
  have isAll := run_alternation (run_branch (areRead.trans ran)) isEnd
  -- A pattern is read with room for four steps at each of its characters.
  have isRoom :
      4 * cursor.rest.length + 4 = header.length + (3 * header.length + 13 + 4) + 1 + 2 := by
    rw [isRest, List.length_cons, List.length_append]
    simp only [List.length_cons, List.length_nil]
    omega
  obtain ⟨next, others, rfl⟩ := List.exists_cons_of_ne_nil isMore
  rw [List.reverse_append, List.reverse_reverse] at isAll
  refine ⟨⟨cursor.position, after.position⟩,
    .assertion ⟨cursor.position, cursor.next.position⟩ .startLine :: next :: others, after, ?_,
    standFor.cons rfl rfl⟩
  have isGot : (get : Reader Cursor).run cursor = .ok (cursor, cursor) := rfl
  rw [pattern, run_bind_ok _ isGot, isRoom, run_bind_ok _ isAll, run_bind_ok _ (run_current after),
    isEnd]
  rfl

end Reader

/-- A pattern for a header is read as the expression of that header. -/
theorem compile_header {header : String} (arePlain : ∀ char ∈ header.toList, IsPlain char) :
    compile ("^" ++ header ++ ".*$") = .ok (headerExpression header.toList) := by
  have isRest : Cursor.rest { rest := ("^" ++ header ++ ".*$").toList } =
      '^' :: (header.toList ++ ['.', '*', '$']) := by
    simp
  obtain ⟨span, nodes, after, ran, standFor⟩ := Reader.run_pattern_header arePlain isRest rfl
  have isShallow : (Node.concatenation span nodes).tooDeep nestingLimit = none := by
    rw [nestingLimit, Node.tooDeep]
    exact standFor.isShallow
  have isParsed : parse ("^" ++ header ++ ".*$").toList = .ok (.concatenation span nodes) := by
    rw [parse, ran]
    simp only [bind, Except.bind, isShallow]
    rfl
  have isMeant : (Node.concatenation span nodes).expression {} =
      .ok (headerExpression header.toList, {}) := by
    rw [Node.expression]
    exact standFor.isMeant
  rw [compile, isParsed]
  simp only [bind, Except.bind, isMeant]
  rfl

/-! ### Matching -/

section Matching

variable {text : Text} (isLine : '\n' ∉ text)

include isLine

theorem steps_through {start : Nat} (count : Nat) (isInside : start + count ≤ text.length) :
    Steps ((Expression.one fun char => char ≠ '\n').Spans text) count start (start + count) := by
  induction count generalizing start with
  | zero => exact .none start
  | succ count ih =>
      have isPlace : start < text.length := by omega
      have isNoBreak : text[start] ≠ '\n' := by
        intro isBreak
        exact isLine (isBreak ▸ List.getElem_mem isPlace)
      have others := ih (by omega : start + 1 + count ≤ text.length)
      rw [Nat.add_assoc, Nat.add_comm 1 count] at others
      refine .more ⟨rfl, text[start], List.getElem?_eq_getElem isPlace, ?_⟩ others
      simpa using isNoBreak

theorem spans_throughHeader_iff (header : Text) {start : Nat} (isPlace : start ≤ text.length) :
    (∃ stop, (throughHeader header).Spans text start stop) ↔ header <+: text.drop start := by
  induction header generalizing start with
  | nil =>
      refine iff_of_true ⟨text.length, text.length, ⟨text.length - start, ?_⟩, text.length, ?_⟩
        List.nil_prefix
      · have isEnd : start + (text.length - start) = text.length := by omega
        have steps := steps_through isLine (text.length - start) (Nat.le_of_eq isEnd)
        rw [isEnd] at steps
        exact ⟨Nat.zero_le _, by simp, steps⟩
      · exact ⟨⟨rfl, by simp [Look.holds]⟩, rfl⟩
  | cons char rest ih =>
      constructor
      · rintro ⟨stop, _, ⟨rfl, found, isFound, isChar⟩, others⟩
        obtain ⟨isInside, isHere⟩ := List.getElem?_eq_some_iff.mp isFound
        rw [List.drop_eq_getElem_cons isInside, List.cons_prefix_cons, isHere]
        exact ⟨(of_decide_eq_true isChar).symm, (ih isInside).mp ⟨stop, others⟩⟩
      · intro isPrefix
        have isInside : start < text.length := by
          by_contra isOutside
          rw [List.drop_eq_nil_of_le (by omega), List.prefix_nil] at isPrefix
          cases isPrefix
        rw [List.drop_eq_getElem_cons isInside, List.cons_prefix_cons] at isPrefix
        obtain ⟨stop, others⟩ := (ih isInside).mpr isPrefix.2
        exact ⟨stop, start + 1,
          ⟨rfl, char, by rw [List.getElem?_eq_getElem isInside, isPrefix.1], by simp⟩, others⟩

/-- The expression of a header matches the lines that begin with it. -/
theorem headerExpression_matchesIn_iff (header : Text) :
    (headerExpression header).matchesIn text = true ↔ header <+: text := by
  rw [Expression.matchesIn_iff]
  constructor
  · rintro ⟨start, stop, isPlace, _, ⟨rfl, isStart⟩, others⟩
    cases start with
    | zero => exact (spans_throughHeader_iff isLine header isPlace).mp ⟨stop, others⟩
    | succ place =>
        rw [before?, List.getElem?_eq_getElem (by omega)] at isStart
        cases isStart
  · intro isPrefix
    obtain ⟨stop, others⟩ := (spans_throughHeader_iff isLine header (Nat.zero_le _)).mpr isPrefix
    exact ⟨0, stop, Nat.zero_le _, 0, ⟨rfl, rfl⟩, others⟩

end Matching

end FixtureRunner.Pattern
