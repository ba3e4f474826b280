/-
Documentation comments.

A documentation comment is a single line behind three slashes, a block closed by the first `*/`, or a
nesting block closed when as many closers as openers have been seen. Its paragraphs are its lines
without markers, without a leading run of stars and plus signs, and without empty lines at either
end. A block that is never closed takes the rest of the source.
-/
import DocSite.Source.Line

namespace DocSite

/-- The forms of documentation comments. -/
inductive CommentStyle where
  | line
  | block
  | nested
  deriving DecidableEq, Repr

def commentStyle? (line : Text) : Option CommentStyle :=
  match line with
  | '/' :: '/' :: '/' :: _ => some .line
  | '/' :: '+' :: _ => some .nested
  | '/' :: '*' :: _ => some .block
  | _ => none

/-- Whether two characters agree when case is ignored, for the letters of the repetition marker. An
`i` also agrees with the dotted capital and the dotless small letter. -/
def agreesIgnoringCase (letter character : Char) : Bool :=
  character.toLower == letter ||
    (letter == 'i' && (character.toNat == 0x130 || character.toNat == 0x131))

/-- Whether a line is the marker that repeats the last comment: three slashes and the word `ditto`. -/
def isDitto (line : Text) : Bool :=
  match Text.afterPrefix? "///".toList (Text.trim line) with
  | none => false
  | some rest =>
      let word := Text.trim rest
      word.length == 5 && (List.zipWith agreesIgnoringCase "ditto".toList word).all id

def trimEmptyLines (paragraphs : List Text) : List Text :=
  ((paragraphs.dropWhile List.isEmpty).reverse.dropWhile List.isEmpty).reverse

/-- The prose of an inner line: trimmed, without a leading run of stars and plus signs. -/
def cleanCommentLine (text : Text) : Text :=
  Text.trim ((Text.trim text).dropWhile fun character => character == '*' || character == '+')

/-! ### Blocks -/

/-- The inner lines of a block whose text goes on with `body`, and the lines behind it. -/
def blockParagraphs (body : Text) (lines : List Line) : List Text × List Line :=
  match Text.cut? "*/".toList body with
  | some (inside, _) => ([cleanCommentLine inside], lines)
  | none =>
      match lines with
      | [] => ([cleanCommentLine body], [])
      | next :: rest =>
          let (paragraphs, remaining) := blockParagraphs next.text rest
          (cleanCommentLine body :: paragraphs, remaining)
termination_by structural lines

/-- The text of a block behind its opener, which may have a second star. A second star that closes
the comment at once is no part of the opener. -/
def blockBody (first : Text) : Text :=
  match first.drop 2 with
  | '*' :: '/' :: rest => '*' :: '/' :: rest
  | '*' :: rest => rest
  | rest => rest

/-! ### Nesting blocks -/

/-- The openers of nesting comments on a line less the closers. -/
def nestingDelta (line : Text) : Int :=
  Int.ofNat (Text.countPair '/' '+' line) - Int.ofNat (Text.countPair '+' '/' line)

/-- Drops the closer of a nesting comment from the end of a text, with every plus sign before it. -/
def dropNestingCloser (text : Text) : Text :=
  match text.reverse with
  | '/' :: '+' :: rest => (rest.dropWhile (· == '+')).reverse
  | _ => text

/-- The inner lines of a nesting block whose text goes on with `body` at a depth that includes the
line of `body`, and the lines behind the block. -/
def nestedParagraphs (depth : Int) (body : Text) (lines : List Line) : List Text × List Line :=
  if depth ≤ 0 then ([cleanCommentLine (dropNestingCloser body)], lines)
  else
    match lines with
    | [] => ([cleanCommentLine body], [])
    | next :: rest =>
        let (paragraphs, remaining) :=
          nestedParagraphs (depth + nestingDelta next.text) next.text rest
        (cleanCommentLine body :: paragraphs, remaining)
termination_by structural lines

/-! ### Extraction -/

def extractStyled (style : CommentStyle) (first : Line) (rest : List Line) :
    List Text × List Line :=
  match style with
  | .line => ([Text.trim (first.text.dropWhile (· == '/'))], rest)
  | .block =>
      let (paragraphs, remaining) := blockParagraphs (blockBody first.text) rest
      (trimEmptyLines paragraphs, remaining)
  | .nested =>
      let (paragraphs, remaining) :=
        nestedParagraphs (nestingDelta first.text) (first.text.drop 2) rest
      (trimEmptyLines paragraphs, remaining)

def extractComment? (first : Line) (rest : List Line) : Option (List Text × List Line) :=
  (commentStyle? first.text).map fun style => extractStyled style first rest

/-! ### Progress -/

theorem blockParagraphs_length_le (body : Text) (lines : List Line) :
    (blockParagraphs body lines).2.length ≤ lines.length := by
  induction lines generalizing body with
  | nil =>
      unfold blockParagraphs
      split <;> simp
  | cons next rest ih =>
      unfold blockParagraphs
      split
      · simp
      · have shorter := ih next.text
        simp only [List.length_cons]
        omega

theorem nestedParagraphs_length_le (depth : Int) (body : Text) (lines : List Line) :
    (nestedParagraphs depth body lines).2.length ≤ lines.length := by
  induction lines generalizing depth body with
  | nil =>
      unfold nestedParagraphs
      split <;> simp
  | cons next rest ih =>
      unfold nestedParagraphs
      split
      · simp
      · have shorter := ih (depth + nestingDelta next.text) next.text
        simp only [List.length_cons]
        omega

/-- A comment ends no earlier than behind its first line. -/
theorem extractStyled_length_le (style : CommentStyle) (first : Line) (rest : List Line) :
    (extractStyled style first rest).2.length ≤ rest.length := by
  cases style with
  | line => exact Nat.le_refl _
  | block => exact blockParagraphs_length_le _ _
  | nested => exact nestedParagraphs_length_le _ _ _

end DocSite
