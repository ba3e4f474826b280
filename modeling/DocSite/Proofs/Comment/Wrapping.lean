/-
Ways to write a comment.

The same prose can be written with three slashes in front of each line, or as a block or a nesting block with a
star or a plus sign in front of each line. Whichever way it is written, reading takes exactly the lines that were
written, whatever follows them, and what waits then is the prose without the empty lines at its ends.
-/
import DocSite.Proofs.Comment.Prose

namespace DocSite

structure PlainProse where
  lines : List Text
  trimmed : ∀ line ∈ lines, Text.trim line = line
  noBlockCloser : ∀ line ∈ lines, ¬['*', '/'] <:+: line
  noNestingOpener : ∀ line ∈ lines, ¬['/', '+'] <:+: line
  noNestingCloser : ∀ line ∈ lines, ¬['+', '/'] <:+: line
  noMarker : ∀ line ∈ lines, Canonical.isDittoWord line = false

/-- The way a comment is written. The opener of a block may have its mark twice. -/
inductive Wrapping where
  | slashes
  | block (doubled : Bool)
  | nesting (doubled : Bool)

def enclosed (mark : Char) (doubled : Bool) (lines : List Text) : List Text :=
  ('/' :: mark :: if doubled then [mark] else []) ::
    (lines.map (fun line => ' ' :: mark :: ' ' :: line) ++ [[' ', mark, '/']])

namespace Wrapping

def write (lines : List Text) : Wrapping → List Text
  | .slashes => lines.map fun line => "/// ".toList ++ line
  | .block doubled => enclosed '*' doubled lines
  | .nesting doubled => enclosed '+' doubled lines

/-- The number of comments that are read: single lines are read one by one, a block as a whole. -/
def comments (lines : List Text) : Wrapping → Nat
  | .slashes => lines.length
  | .block _ => 1
  | .nesting _ => 1

end Wrapping

def CommentRegister.consumeTimes? : Nat → CommentRegister → List Line → Option (CommentRegister × List Line)
  | 0, register, lines => some (register, lines)
  | _ + 1, _, [] => none
  | times + 1, register, line :: rest =>
      (register.consume? line rest).bind fun next => next.1.consumeTimes? times next.2

/-! ### Lines behind a mark -/

section Marked

variable {mark : Char} {line : Text}

/-- A line behind a mark, without the blanks around it. -/
theorem trim_marked (ink : isBlank mark = false) (line : Text) :
    Text.trim (' ' :: mark :: ' ' :: line) = mark :: Text.trimRight (' ' :: line) :=
  Text.trim_append_ink ink [' '] (' ' :: line)

theorem marked_begins (mark : Char) (line : Text) :
    mark :: Text.trimRight (' ' :: line) <+: mark :: ' ' :: line :=
  (List.prefix_cons_inj mark).mpr (Text.trimRight_begins (' ' :: line))

/-- What is no part of a line is no part of it behind a mark either. -/
theorem not_infix_marked {first second : Char} (noBlank : isBlank first = false ∧ isBlank second = false)
    (absent : ¬[first, second] <:+: line) : ¬[first, second] <:+: mark :: Text.trimRight (' ' :: line) := by
  have ink : ∀ character ∈ [first, second], isBlank character = false :=
    List.forall_mem_cons.mpr ⟨noBlank.1, List.forall_mem_singleton.mpr noBlank.2⟩
  intro inside
  have behind : [first, second] <:+: [mark] ++ ' ' :: line := inside.trans (marked_begins mark line).isInfix
  rcases (Text.infix_append_blank ink (List.cons_ne_nil _ _) rfl).mp behind with alone | within
  · have lengths := alone.length_le
    rw [List.length_cons, List.length_singleton, List.length_singleton] at lengths
    omega
  · exact absent within

theorem cleanCommentLine_marked (known : mark = '*' ∨ mark = '+') (trimmed : Text.trim line = line) :
    cleanCommentLine (mark :: Text.trimRight (' ' :: line)) = line := by
  have ink : isBlank mark = false := by
    rcases known with star | plus
    · rw [star]
      rfl
    · rw [plus]
      rfl
  have dropped : (mark :: Text.trimRight (' ' :: line)).dropWhile
      (fun character => character == '*' || character == '+') = Text.trimRight (' ' :: line) := by
    rw [List.dropWhile_cons_of_pos (by rcases known with same | same <;> rw [same] <;> rfl)]
    cases starts : Text.trimRight (' ' :: line) with
    | nil => rfl
    | cons first others =>
        have isStart := Text.trimRight_begins (' ' :: line)
        rw [starts] at isStart
        rw [(List.cons_prefix_cons.mp isStart).1]
        rfl
  unfold cleanCommentLine
  rw [← trim_marked ink, Text.trim_trim, trim_marked ink, dropped, Text.trim_trimRight,
    Text.trim_cons_blank rfl, trimmed]

end Marked

theorem countPair_eq_zero {left right : Char} {text : Text} (absent : ¬[left, right] <:+: text) :
    Text.countPair left right text = 0 := by
  induction text using Text.countPair.induct left right with
  | case1 => rfl
  | case2 => rfl
  | case3 first second rest both ih =>
      rw [both.1, both.2] at absent
      exact absurd (List.prefix_append [left, right] rest).isInfix absent
  | case4 first second rest other ih =>
      rw [Text.countPair, if_neg other]
      exact ih fun inside => absent (List.infix_cons inside)

/-! ### Blocks -/

theorem numberedLines_cons (number : Nat) (text : Text) (texts : List Text) :
    numberedLines number (text :: texts) = ⟨number, Text.trim text⟩ :: numberedLines (number + 1) texts := rfl

section Blocks

variable {lines : List Text} (trimmed : ∀ line ∈ lines, Text.trim line = line) (following : List Line)

include trimmed

theorem blockParagraphs_marked (noCloser : ∀ line ∈ lines, ¬['*', '/'] <:+: line) (number : Nat) {body : Text}
    (goesOn : ¬['*', '/'] <:+: body) :
    blockParagraphs body (numberedLines number
        (lines.map (fun line => ' ' :: '*' :: ' ' :: line) ++ [[' ', '*', '/']]) ++ following) =
      (cleanCommentLine body :: (lines ++ [[]]), following) := by
  have uncut : Text.cut? "*/".toList body = none := Text.cut?_eq_none_iff.mpr goesOn
  induction lines generalizing number body with
  | nil =>
      have closer : Text.cut? "*/".toList (Text.trim [' ', '*', '/']) = some ([], []) := rfl
      rw [List.map_nil, List.nil_append, numberedLines_cons, List.cons_append, blockParagraphs_open uncut,
        blockParagraphs_closed closer]
      rfl
  | cons line lines ih =>
      have absent := @not_infix_marked '*' line '*' '/' ⟨rfl, rfl⟩ (noCloser line List.mem_cons_self)
      have further := ih (fun other member => trimmed other (List.mem_cons_of_mem line member))
        (fun other member => noCloser other (List.mem_cons_of_mem line member)) (number + 1) absent
        (Text.cut?_eq_none_iff.mpr absent)
      rw [cleanCommentLine_marked (.inl rfl) (trimmed line List.mem_cons_self)] at further
      rw [List.map_cons, List.cons_append, numberedLines_cons, trim_marked rfl, List.cons_append,
        blockParagraphs_open uncut, further]
      rfl

theorem nestedParagraphs_marked (noOpener : ∀ line ∈ lines, ¬['/', '+'] <:+: line)
    (noCloser : ∀ line ∈ lines, ¬['+', '/'] <:+: line) (number : Nat) (body : Text) :
    nestedParagraphs 1 body (numberedLines number
        (lines.map (fun line => ' ' :: '+' :: ' ' :: line) ++ [[' ', '+', '/']]) ++ following) =
      (cleanCommentLine body :: (lines ++ [[]]), following) := by
  induction lines generalizing number body with
  | nil =>
      have closer : 1 + nestingDelta (Text.trim [' ', '+', '/']) ≤ 0 := by decide
      rw [List.map_nil, List.nil_append, numberedLines_cons, List.cons_append, nestedParagraphs_open Int.one_pos,
        nestedParagraphs_closed closer]
      rfl
  | cons line lines ih =>
      have level : nestingDelta ('+' :: Text.trimRight (' ' :: line)) = 0 := by
        unfold nestingDelta
        rw [countPair_eq_zero (not_infix_marked ⟨rfl, rfl⟩ (noOpener line List.mem_cons_self)),
          countPair_eq_zero (not_infix_marked ⟨rfl, rfl⟩ (noCloser line List.mem_cons_self)), Int.sub_self]
      have further := ih (fun other member => trimmed other (List.mem_cons_of_mem line member))
        (fun other member => noOpener other (List.mem_cons_of_mem line member))
        (fun other member => noCloser other (List.mem_cons_of_mem line member)) (number + 1)
        ('+' :: Text.trimRight (' ' :: line))
      rw [cleanCommentLine_marked (.inr rfl) (trimmed line List.mem_cons_self)] at further
      rw [List.map_cons, List.cons_append, numberedLines_cons, trim_marked rfl, List.cons_append,
        nestedParagraphs_open Int.one_pos, level, Int.add_zero, further]
      rfl

end Blocks

/-! ### Whole comments -/

/-- The prose between an opener and a closer without text of their own waits as it is, trimmed. -/
theorem pending_beginBlock (register : CommentRegister) (lines : List Text) :
    (register.beginBlock (trimEmptyLines ([] :: (lines ++ [[]])))).pending = trimEmptyLines lines := by
  unfold CommentRegister.pending CommentRegister.beginBlock
  rw [trimEmptyLines_trimEmptyLines, trimEmptyLines_cons_nil, trimEmptyLines_concat_nil]

theorem consumeTimes?_slashes {lines : List Text} (trimmed : ∀ line ∈ lines, Text.trim line = line)
    (noMarker : ∀ line ∈ lines, Canonical.isDittoWord line = false) (register : CommentRegister) (number : Nat)
    (following : List Line) :
    register.consumeTimes? lines.length
        (numberedLines number (lines.map fun line => "/// ".toList ++ line) ++ following) =
      some (register.extend lines, following) := by
  induction lines generalizing register number with
  | nil => exact congrArg (fun same => some (same, following)) (Canonical.extend_nil register).symm
  | cons line lines ih =>
      have first := Canonical.consume?_commentLine (trimmed line List.mem_cons_self)
        (noMarker line List.mem_cons_self) register number
        (numberedLines (number + 1) (lines.map fun line => "/// ".toList ++ line) ++ following)
      rw [List.map_cons, numberedLines_cons, List.cons_append, List.length_cons,
        CommentRegister.consumeTimes?, first, Option.bind_some,
        ih (fun other member => trimmed other (List.mem_cons_of_mem line member))
          (fun other member => noMarker other (List.mem_cons_of_mem line member)),
        Canonical.extend_cons]

/-- A block is taken as a whole when its inner lines are found to be the prose between two empty lines. -/
theorem consumeTimes?_block {first : Line} {rest following : List Line} {style : CommentStyle} {lines : List Text}
    (noMarker : isDitto first.text = false) (opens : commentStyle? first.text = some style)
    (noLine : style ≠ .line)
    (read : extractStyled style first rest = (trimEmptyLines ([] :: (lines ++ [[]])), following))
    (register : CommentRegister) :
    register.consumeTimes? 1 (first :: rest) =
      some (register.beginBlock (trimEmptyLines ([] :: (lines ++ [[]]))), following) := by
  have consumed : register.consume? first rest =
      some (register.beginBlock (trimEmptyLines ([] :: (lines ++ [[]]))), following) := by
    unfold CommentRegister.consume?
    rw [noMarker, opens]
    dsimp only
    rw [read]
    cases style with
    | line => exact absurd rfl noLine
    | block => rfl
    | nested => rfl
  rw [CommentRegister.consumeTimes?, consumed]
  rfl

theorem consumeTimes?_starred (prose : PlainProse) (doubled : Bool) (register : CommentRegister) (number : Nat)
    (following : List Line) :
    register.consumeTimes? 1 (numberedLines number (enclosed '*' doubled prose.lines) ++ following) =
      some (register.beginBlock (trimEmptyLines ([] :: (prose.lines ++ [[]]))), following) := by
  have uncut : ¬['*', '/'] <:+: ([] : Text) := by decide
  have read := blockParagraphs_marked prose.trimmed following prose.noBlockCloser (number + 1) uncut
  rw [enclosed, numberedLines_cons, List.cons_append]
  cases doubled <;> refine consumeTimes?_block rfl rfl CommentStyle.noConfusion ?_ register
  all_goals
    change (trimEmptyLines (blockParagraphs [] _).1, (blockParagraphs [] _).2) = _
    rw [read]
    rfl

theorem consumeTimes?_plussed (prose : PlainProse) (doubled : Bool) (register : CommentRegister) (number : Nat)
    (following : List Line) :
    register.consumeTimes? 1 (numberedLines number (enclosed '+' doubled prose.lines) ++ following) =
      some (register.beginBlock (trimEmptyLines ([] :: (prose.lines ++ [[]]))), following) := by
  have read := nestedParagraphs_marked prose.trimmed following prose.noNestingOpener prose.noNestingCloser
    (number + 1)
  rw [enclosed, numberedLines_cons, List.cons_append]
  cases doubled <;> refine consumeTimes?_block rfl rfl CommentStyle.noConfusion ?_ register
  · change (trimEmptyLines (nestedParagraphs 1 [] _).1, (nestedParagraphs 1 [] _).2) = _
    rw [read]
    rfl
  · change (trimEmptyLines (nestedParagraphs 1 ['+'] _).1, (nestedParagraphs 1 ['+'] _).2) = _
    rw [read]
    rfl

/-- However plain prose is written, exactly the lines that were written are read, and the prose without the empty
lines at its ends waits for the next declaration. -/
theorem wrappings_read_back (prose : PlainProse) (wrapping : Wrapping) (number : Nat) (following : List Line) :
    ∃ register, CommentRegister.empty.consumeTimes? (wrapping.comments prose.lines)
        (numberedLines number (wrapping.write prose.lines) ++ following) = some (register, following) ∧
      register.pending = trimEmptyLines prose.lines ∧
      WithoutEmptyEnds prose.lines register.pending := by
  have waits {register : CommentRegister} (pending : register.pending = trimEmptyLines prose.lines) :
      register.pending = trimEmptyLines prose.lines ∧ WithoutEmptyEnds prose.lines register.pending := by
    refine ⟨pending, ?_⟩
    rw [pending]
    exact withoutEmptyEnds_trimEmptyLines prose.lines
  cases wrapping with
  | slashes =>
      exact ⟨_, consumeTimes?_slashes prose.trimmed prose.noMarker .empty number following, waits rfl⟩
  | block doubled =>
      exact ⟨_, consumeTimes?_starred prose doubled .empty number following, waits (pending_beginBlock _ _)⟩
  | nesting doubled =>
      exact ⟨_, consumeTimes?_plussed prose doubled .empty number following, waits (pending_beginBlock _ _)⟩

def markedProse : PlainProse where
  lines := [[], "* one".toList, [], "++ two".toList, "/".toList]
  trimmed := by decide
  noBlockCloser := by decide +kernel
  noNestingOpener := by decide +kernel
  noNestingCloser := by decide +kernel
  noMarker := by decide

theorem wrappings_read_back_markedProse (following : List Line) :
    (Wrapping.nesting true).write markedProse.lines =
        ["/++", " + ", " + * one", " + ", " + ++ two", " + /", " +/"].map String.toList ∧
      ∃ register, CommentRegister.empty.consumeTimes? 1
          (numberedLines 7 ((Wrapping.nesting true).write markedProse.lines) ++ following) =
            some (register, following) ∧
        register.pending = ["* one", "", "++ two", "/"].map String.toList := by
  obtain ⟨register, read, pending, -⟩ := wrappings_read_back markedProse (.nesting true) 7 following
  exact ⟨by decide, register, read, pending.trans (by decide)⟩

end DocSite
