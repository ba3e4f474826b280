/-
Comments, one line at a time.

A scope that collects comments stands either between comments or inside a block that an earlier line has
opened. Reading a line takes it from one such state to the next, or leaves the line to the code. A comment
that is taken off the front of the remaining lines is read this way to its end, or to the end of the source.
-/
import DocSite.Comment.Register

namespace DocSite

/-- Where a scope stands with its comments: between comments, or inside a block with the paragraphs read so
far. The register is that of the scope in front of the block. -/
inductive CommentReader where
  | idle (register : CommentRegister)
  | block (register : CommentRegister) (paragraphs : List Text)
  | nested (register : CommentRegister) (depth : Int) (paragraphs : List Text)
  deriving DecidableEq

namespace CommentReader

def register : CommentReader → CommentRegister
  | .idle register => register
  | .block register _ => register
  | .nested register _ _ => register

def readBlock (register : CommentRegister) (paragraphs : List Text) (body : Text) : CommentReader :=
  match Text.cut? "*/".toList body with
  | some (inside, _) =>
      .idle (register.beginBlock (trimEmptyLines (paragraphs ++ [cleanCommentLine inside])))
  | none => .block register (paragraphs ++ [cleanCommentLine body])

def readNested (register : CommentRegister) (depth : Int) (paragraphs : List Text) (body : Text) :
    CommentReader :=
  if depth ≤ 0 then
    .idle (register.beginBlock
      (trimEmptyLines (paragraphs ++ [cleanCommentLine (dropNestingCloser body)])))
  else .nested register depth (paragraphs ++ [cleanCommentLine body])

def opened (register : CommentRegister) (text : Text) : CommentStyle → CommentReader
  | .line => .idle (register.extend [Text.trim (text.dropWhile (· == '/'))])
  | .block => readBlock register [] (blockBody text)
  | .nested => readNested register (nestingDelta text) [] (text.drop 2)

def read? : CommentReader → Text → Option CommentReader
  | .idle register, text =>
      if isDitto text then some (.idle register.ditto)
      else (commentStyle? text).map (opened register text)
  | .block register paragraphs, text => some (readBlock register paragraphs text)
  | .nested register depth paragraphs, text =>
      some (readNested register (depth + nestingDelta text) paragraphs text)

def readAll? (reader : CommentReader) : List Line → Option CommentReader
  | [] => some reader
  | line :: rest => (reader.read? line.text).bind fun next => next.readAll? rest

theorem readAll?_cons {reader next : CommentReader} {line : Line} (reads : reader.read? line.text = some next)
    (rest : List Line) : reader.readAll? (line :: rest) = next.readAll? rest := by
  rw [readAll?, reads]
  rfl

/-- Only a scope between comments leaves a line to the code. -/
theorem eq_idle_of_read?_eq_none {reader : CommentReader} {text : Text}
    (ignored : reader.read? text = none) : reader = .idle reader.register := by
  cases reader with
  | idle register => rfl
  | block register paragraphs => cases ignored
  | nested register depth paragraphs => cases ignored

/-! ### Blocks -/

theorem blockParagraphs_read (register : CommentRegister) (paragraphs : List Text) (body : Text)
    (lines : List Line) :
    ∃ front reader, lines = front ++ (blockParagraphs body lines).2 ∧
      (readBlock register paragraphs body).readAll? front = some reader ∧
        (reader = .idle (register.beginBlock
            (trimEmptyLines (paragraphs ++ (blockParagraphs body lines).1))) ∨
          (blockParagraphs body lines).2 = []) := by
  induction lines generalizing paragraphs body with
  | nil =>
      unfold blockParagraphs readBlock
      cases Text.cut? "*/".toList body with
      | some parts => exact ⟨[], _, rfl, rfl, .inl rfl⟩
      | none => exact ⟨[], _, rfl, rfl, .inr rfl⟩
  | cons next rest ih =>
      unfold blockParagraphs readBlock
      cases Text.cut? "*/".toList body with
      | some parts => exact ⟨[], _, rfl, rfl, .inl rfl⟩
      | none =>
          obtain ⟨front, reader, split, reads, ends⟩ :=
            ih (paragraphs ++ [cleanCommentLine body]) next.text
          refine ⟨next :: front, reader, congrArg (List.cons next) split, ?_, ?_⟩
          · exact (readAll?_cons rfl front).trans reads
          · simpa only [List.append_assoc, List.singleton_append] using ends

theorem nestedParagraphs_read (register : CommentRegister) (depth : Int) (paragraphs : List Text)
    (body : Text) (lines : List Line) :
    ∃ front reader, lines = front ++ (nestedParagraphs depth body lines).2 ∧
      (readNested register depth paragraphs body).readAll? front = some reader ∧
        (reader = .idle (register.beginBlock
            (trimEmptyLines (paragraphs ++ (nestedParagraphs depth body lines).1))) ∨
          (nestedParagraphs depth body lines).2 = []) := by
  induction lines generalizing depth paragraphs body with
  | nil =>
      unfold nestedParagraphs readNested
      by_cases closed : depth ≤ 0
      · rw [if_pos closed, if_pos closed]
        exact ⟨[], _, rfl, rfl, .inl rfl⟩
      · rw [if_neg closed, if_neg closed]
        exact ⟨[], _, rfl, rfl, .inr rfl⟩
  | cons next rest ih =>
      unfold nestedParagraphs readNested
      by_cases closed : depth ≤ 0
      · rw [if_pos closed, if_pos closed]
        exact ⟨[], _, rfl, rfl, .inl rfl⟩
      · rw [if_neg closed, if_neg closed]
        obtain ⟨front, reader, split, reads, ends⟩ :=
          ih (depth + nestingDelta next.text) (paragraphs ++ [cleanCommentLine body]) next.text
        refine ⟨next :: front, reader, congrArg (List.cons next) split, ?_, ?_⟩
        · exact (readAll?_cons rfl front).trans reads
        · simpa only [List.append_assoc, List.singleton_append] using ends

/-! ### Whole comments -/

theorem read?_idle_iff (register : CommentRegister) (text : Text) :
    (idle register).read? text = none ↔ isDitto text = false ∧ commentStyle? text = none := by
  unfold read?
  by_cases ditto : isDitto text = true
  · simp [ditto]
  · simp [ditto]

theorem read?_idle_eq_none_iff (register : CommentRegister) (line : Line) (rest : List Line) :
    (idle register).read? line.text = none ↔ register.consume? line rest = none := by
  unfold read? CommentRegister.consume?
  by_cases ditto : isDitto line.text = true
  · simp [ditto]
  · simp only [ditto, Bool.false_eq_true, if_false]
    cases commentStyle? line.text with
    | none => simp
    | some style => cases style <;> simp

/-- A comment that is taken off the front is read line by line up to the lines behind it. Only a comment that
the end of the source cuts off may still be open there. -/
theorem consume?_read {register next : CommentRegister} {line : Line} {rest remaining : List Line}
    (consumed : register.consume? line rest = some (next, remaining)) :
    ∃ front reader, rest = front ++ remaining ∧
      (idle register).readAll? (line :: front) = some reader ∧
        (reader = .idle next ∨ remaining = []) := by
  unfold CommentRegister.consume? at consumed
  by_cases ditto : isDitto line.text = true
  · rw [if_pos ditto] at consumed
    cases consumed
    refine ⟨[], .idle register.ditto, rfl, ?_, .inl rfl⟩
    exact readAll?_cons (by rw [read?, if_pos ditto]) []
  rw [if_neg ditto] at consumed
  cases style : commentStyle? line.text with
  | none =>
      rw [style] at consumed
      cases consumed
  | some found =>
      have reads : (idle register).read? line.text = some (opened register line.text found) := by
        rw [read?, if_neg ditto, style]
        rfl
      simp only [readAll?_cons reads]
      rw [style] at consumed
      cases found with
      | line =>
          cases consumed
          exact ⟨[], _, rfl, rfl, .inl rfl⟩
      | block =>
          cases consumed
          exact blockParagraphs_read register [] (blockBody line.text) rest
      | nested =>
          cases consumed
          exact nestedParagraphs_read register (nestingDelta line.text) [] (line.text.drop 2) rest

end CommentReader
end DocSite
