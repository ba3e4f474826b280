/-
The code of a line in place of the line.

Walks read a line or only its code, whichever is at hand. This makes no difference: the code of a line has no
comment of its own, the braces of the line and, blanks around it left aside, the same declaration. A line comment
ends at the end of the line, so blanks behind the line do not belong to its code.
-/
import DocSite.Container.Header
import DocSite.Signature.Parse
import DocSite.Proofs.Source.Segments

namespace DocSite

structure DeclareAlike (line other : Text) : Prop where
  header : matchHeader? line = matchHeader? other
  signature : isFunction line = isFunction other
  function : ∀ comments number, parseFunction? line comments number = parseFunction? other comments number

theorem DeclareAlike.of_code {line other : Text}
    (same : codeOf (Text.trim line) = codeOf (Text.trim other)) : DeclareAlike line other where
  header := by
    unfold matchHeader?
    rw [same]
  signature := congrArg isSignatureCode same
  function comments number := congrArg (parseSignature? · comments number) same

/-! ### Blanks around a line -/

/-- What follows a line with a comment belongs to the comment. -/
theorem code_append_of_comment {zone : Zone} {bound : Bool} {front comment : Text}
    (found : (CodeScan.ofText zone bound front).comment = some comment) (behind : Text) :
    (CodeScan.ofText zone bound (front ++ behind)).code = (CodeScan.ofText zone bound front).code := by
  induction front generalizing zone bound with
  | nil => cases found
  | cons character rest ih =>
      cases rest with
      | nil =>
          rw [(CodeScan.ofText_singleton zone bound character).2] at found
          cases found
      | cons second further =>
          rw [CodeScan.ofText_cons, List.head?_cons] at found
          rw [List.cons_append, CodeScan.ofText_cons, CodeScan.ofText_cons, List.cons_append, List.head?_cons,
            List.head?_cons]
          cases reading : CodeScan.readCharacter zone bound character (some second) with
          | inert after boundAfter =>
              rw [reading] at found
              exact congrArg (List.cons character) (ih found)
          | structural =>
              rw [reading] at found
              exact congrArg (List.cons character) (ih found)
          | lineComment => rfl

theorem codeOf_append_blanks (line : Text) {blanks : Text}
    (blank : ∀ character ∈ blanks, isBlank character = true) : codeOf (line ++ blanks) = codeOf line := by
  have noMark {mark : Char} (ink : isBlank mark = false) : mark ∉ blanks := by
    intro member
    rw [blank mark member] at ink
    cases ink
  change Text.trimRight (scanCode (line ++ blanks)).code = Text.trimRight (scanCode line).code
  cases found : (scanCode line).comment with
  | some comment =>
      rw [scanCode, code_append_of_comment found]
      rfl
  | none =>
      have noSlash : blanks.head? ≠ some '/' := fun slash => noMark rfl (List.mem_of_mem_head? slash)
      have noStar : blanks.head? ≠ some '*' := fun star => noMark rfl (List.mem_of_mem_head? star)
      rw [scanCode, CodeScan.ofText_append found noSlash noStar, CodeScan.followedBy,
        code_eq_self (comment_eq_none (noMark rfl)), Text.trimRight_append_blanks _ blank]
      rfl

theorem codeOf_trimRight (line : Text) : codeOf (Text.trimRight line) = codeOf line := by
  obtain ⟨blanks, whole, blank⟩ := Text.exists_blanks_trimRight line
  conv_rhs => rw [whole, codeOf_append_blanks _ blank]

theorem codeOf_trimLeft (line : Text) : codeOf (Text.trimLeft line) = Text.trim (codeOf line) := by
  obtain ⟨blanks, whole, blank⟩ := Text.exists_blanks_trimLeft line
  have begins : (scanCode (Text.trimLeft line)).code <+: Text.trimLeft line := CodeScan.code_begins .code false _
  have ink : Text.StartsInk (scanCode (Text.trimLeft line)).code := (Text.startsInk_trimLeft line).of_start begins
  have code : (scanCode line).code = blanks ++ (scanCode (Text.trimLeft line)).code := by
    conv_lhs => rw [whole, scanCode_blanks_append blank]
    rfl
  change Text.trimRight _ = Text.trim (Text.trimRight (scanCode line).code)
  rw [Text.trim_trimRight, code, Text.trim_blanks_append blank, Text.trim_eq_trimRight ink]

/-- A line is stripped and split in either order. -/
theorem codeOf_trim_eq (line : Text) : codeOf (Text.trim line) = Text.trim (codeOf line) :=
  (codeOf_trimRight (Text.trimLeft line)).trans (codeOf_trimLeft line)

/-! ### Code read again -/

/-- The code of a line is split into itself and no comment and has the braces of the line. The line without the
blanks around it declares what its code declares, and what the code of the line as it stands declares. -/
theorem codeOf_alone (line : Text) :
    splitLineComment (codeOf line) = (codeOf line, []) ∧
      braceDelta (codeOf line) = braceDelta line ∧ opensBrace (codeOf line) = opensBrace line ∧
        DeclareAlike (Text.trim line) (codeOf (Text.trim line)) ∧ DeclareAlike (Text.trim line) (codeOf line) := by
  have same (text : Text) : codeOf (Text.trim text) = codeOf (Text.trim (codeOf text)) := by
    rw [← codeOf_trim_eq, codeOf_codeOf]
  refine ⟨splitLineComment_codeOf line, braceDelta_codeOf line, opensBrace_codeOf line, ?_, ?_⟩
  · exact .of_code (same (Text.trim line))
  · apply DeclareAlike.of_code
    rw [Text.trim_trim, same]

end DocSite
