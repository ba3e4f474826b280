/-
Pieces of a line.

What the scans take from a line is a contiguous piece of it: the code, the text of a line comment, the prose of
a documentation comment without its markers, the segment inside the braces of a container, the name behind the
keyword of a header, and the name of a module.
-/
import DocSite.Comment.Register
import DocSite.Container.Segment
import DocSite.Doc.Extraction
import DocSite.Proofs.Source.Code
import DocSite.Proofs.Text.Pieces

namespace DocSite

/-! ### Code and line comments -/

theorem CodeScan.comment_suffix {zone : Zone} {bound : Bool} {text comment : Text}
    (found : (CodeScan.ofText zone bound text).comment = some comment) : comment <:+ text := by
  induction text generalizing zone bound with
  | nil => cases found
  | cons character rest ih =>
      rw [CodeScan.ofText_cons] at found
      cases reading : CodeScan.readCharacter zone bound character rest.head? with
      | inert next bound =>
          rw [reading] at found
          exact (ih found).trans (List.suffix_cons character rest)
      | structural =>
          rw [reading] at found
          exact (ih found).trans (List.suffix_cons character rest)
      | lineComment =>
          rw [reading] at found
          cases found
          exact (List.tail_suffix rest).trans (List.suffix_cons character rest)

theorem codeOf_isInfix (line : Text) : codeOf line <:+: line :=
  (codeOf_begins line).isInfix

theorem codeOf_trim_isInfix (text : Text) : codeOf (Text.trim text) <:+: text :=
  (codeOf_isInfix _).trans (Text.trim_isInfix text)

theorem trailing_isInfix (line : Text) : (splitLineComment line).2 <:+: line := by
  change ((scanCode line).comment.getD []) <:+: line
  cases found : (scanCode line).comment with
  | none => exact List.nil_infix
  | some comment => exact (CodeScan.comment_suffix found).isInfix

/-! ### Documentation comments -/

theorem trailingComment?_isInfix {trailing text : Text}
    (found : CommentRegister.trailingComment? trailing = some text) : text <:+: trailing := by
  unfold CommentRegister.trailingComment? at found
  dsimp only at found
  split at found
  · split at found
    · cases found
    · cases found
      exact (Text.trim_isInfix _).trans (List.dropWhile_suffix _).isInfix
  · cases found

theorem cleanCommentLine_isInfix (text : Text) : cleanCommentLine text <:+: text := by
  apply (Text.trim_isInfix _).trans
  exact (List.dropWhile_suffix _).isInfix.trans (Text.trim_isInfix text)

theorem blockBody_isInfix (first : Text) : blockBody first <:+: first := by
  have dropped : first.drop 2 <:+: first := (List.drop_suffix 2 first).isInfix
  unfold blockBody
  split
  · rename_i rest same
    rw [← same]
    exact dropped
  · rename_i rest _ same
    rw [same] at dropped
    exact (List.infix_cons List.infix_rfl).trans dropped
  · exact dropped

theorem dropNestingCloser_isInfix (text : Text) : dropNestingCloser text <:+: text := by
  unfold dropNestingCloser
  split
  · rename_i rest mirrored
    have dropped : rest.dropWhile (· == '+') <:+: text.reverse := by
      rw [mirrored]
      apply (List.dropWhile_suffix _).isInfix.trans
      exact List.infix_cons (List.infix_cons List.infix_rfl)
    have back := dropped.reverse
    rw [List.reverse_reverse] at back
    exact back
  · exact List.infix_rfl

theorem mem_of_mem_trimEmptyLines {paragraphs : List Text} {paragraph : Text}
    (member : paragraph ∈ trimEmptyLines paragraphs) : paragraph ∈ paragraphs := by
  unfold trimEmptyLines at member
  have inner := (List.dropWhile_suffix _).mem (List.mem_reverse.mp member)
  exact (List.dropWhile_suffix _).mem (List.mem_reverse.mp inner)

/-! ### Segments -/

theorem bodySegment_isInfix (code : Text) (opensHere closesHere : Bool) :
    bodySegment code opensHere closesHere <:+: code := by
  have behind : ((Text.cutAt? '\x7b' code).map (·.2)).getD code <:+: code := by
    cases found : Text.cutAt? '\x7b' code with
    | none => exact List.infix_rfl
    | some parts => exact Text.snd_infix_of_cutAt? found
  have before (text : Text) : ((Text.cutAtLast? '\x7d' text).map (·.1)).getD text <:+: text := by
    cases found : Text.cutAtLast? '\x7d' text with
    | none => exact List.infix_rfl
    | some parts => exact Text.fst_infix_of_cutAtLast? found
  unfold bodySegment
  apply (Text.trim_isInfix _).trans
  cases opensHere with
  | true =>
      cases closesHere with
      | true => exact (before _).trans behind
      | false => exact behind
  | false =>
      cases closesHere with
      | true => exact before code
      | false => exact List.infix_rfl

/-! ### Headers -/

theorem afterArgument?_isInfix {text rest : Text} (found : afterArgument? text = some rest) :
    rest <:+: text := by
  unfold afterArgument? at found
  split at found
  · obtain ⟨parts, cut, equal⟩ := Option.map_eq_some_iff.mp found
    rw [← equal]
    exact List.infix_cons (Text.snd_infix_of_cutAt? cut)
  · cases found

theorem afterAttribute?_isInfix {text rest : Text} (found : afterAttribute? text = some rest) :
    rest <:+: text := by
  unfold afterAttribute? at found
  split at found
  · rename_i tail
    have behind : tail.dropWhile isWordChar <:+: '@' :: tail :=
      List.infix_cons (List.dropWhile_suffix isWordChar).isInfix
    dsimp only at found
    split at found
    · cases found
    · split at found
      · exact (afterArgument?_isInfix found).trans behind
      · cases found
        exact behind
  · split at found
    · rename_i tail linkage
      apply (afterArgument?_isInfix found).trans
      exact (Text.trimLeft_isInfix tail).trans (Text.afterPrefix?_isInfix linkage)
    · obtain ⟨word, _, inner⟩ := List.exists_of_findSome?_eq_some found
      split at inner
      · rename_i tail matched
        split at inner
        · cases inner
          exact Text.afterPrefix?_isInfix matched
        · cases inner
      · cases inner

theorem afterSpacedAttribute?_isInfix {text rest : Text}
    (found : afterSpacedAttribute? text = some rest) : rest <:+: text := by
  unfold afterSpacedAttribute? at found
  split at found
  · rename_i behind attributed
    split at found
    · cases found
      exact (Text.trimLeft_isInfix behind).trans (afterAttribute?_isInfix attributed)
    · cases found
  · cases found

theorem rest_infix_of_bareHeader? {text : Text} {header : ContainerHeader}
    (found : bareHeader? text = some header) : header.rest <:+: text := by
  obtain ⟨kind, _, inner⟩ := List.exists_of_findSome?_eq_some found
  split at inner
  · rename_i rest matched
    split at inner
    · cases inner
    · cases inner
      exact (List.takeWhile_prefix _).isInfix.trans (Text.afterPrefix?_isInfix matched)
  · cases inner

theorem rest_infix_of_headerOfCode? {code : Text} {header : ContainerHeader}
    (found : headerOfCode? code = some header) : header.rest <:+: code := by
  induction code using headerOfCode?.induct with
  | case1 code rest attributed ih =>
      rw [headerOfCode?, attributed] at found
      exact (ih found).trans (afterSpacedAttribute?_isInfix attributed)
  | case2 code bare =>
      rw [headerOfCode?, bare] at found
      exact rest_infix_of_bareHeader? found

theorem name_infix_of_matchHeader? {line : Text} {header : ContainerHeader}
    (found : matchHeader? line = some header) : header.name <:+: line := by
  have named : header.name <:+: header.rest := by
    unfold ContainerHeader.name
    cases first : Text.firstWord? header.rest with
    | none => exact List.nil_infix
    | some word =>
        apply (List.takeWhile_prefix _).isInfix.trans
        exact (Text.isWordOf_of_mem_words (List.mem_of_head? first)).piece
  unfold matchHeader? at found
  dsimp only at found
  split at found
  · cases found
  · rename_i inner headed
    split at found
    · cases found
    · cases found
      exact named.trans ((rest_infix_of_headerOfCode? headed).trans (codeOf_trim_isInfix line))

/-! ### Names of modules -/

theorem moduleName?_isInfix {code name : Text} (found : moduleName? code = some name) : name <:+: code := by
  unfold moduleName? at found
  split at found
  · cases found
  · rename_i rest matched
    dsimp only at found
    split at found
    · cases found
      apply (List.takeWhile_prefix _).isInfix.trans
      exact (Text.trimLeft_isInfix rest).trans (Text.afterPrefix?_isInfix matched)
    · cases found

end DocSite
