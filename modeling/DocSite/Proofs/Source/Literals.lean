/-
Literals and block comments as they are written.

A literal stands between two marks of one kind. Its body has that mark only behind a backslash, and in a raw
literal not at all. A block comment ends at the first end mark behind its beginning. Both readers leave a literal
in the state in which they came to it, and the reader of lines a block comment too, so a line keeps its structure
when one of them is put into it where the line is in code.
-/
import DocSite.Proofs.Source.Positions
import DocSite.Proofs.Source.Segments

namespace DocSite

inductive LiteralBody (mark : Char) : Text → Prop
  | nil : LiteralBody mark []
  | character {character : Char} {rest : Text} (other : character ≠ mark)
      (unescaping : character = '\\' → mark = '\x60') (further : LiteralBody mark rest) :
      LiteralBody mark (character :: rest)
  | escape {escaped : Char} {rest : Text} (escapes : mark ≠ '\x60') (further : LiteralBody mark rest) :
      LiteralBody mark ('\\' :: escaped :: rest)

inductive IsLiteral : Text → Prop
  | between {mark : Char} {body : Text} (quotes : isQuoteMark mark = true) (closed : LiteralBody mark body) :
      IsLiteral (mark :: (body ++ [mark]))

inductive IsBlockComment : Text → Prop
  | between {body : Text} (unended : ¬['*', '/'] <:+: body) :
      IsBlockComment ('/' :: '*' :: (body ++ ['*', '/']))

/-- A row of literals and of characters that open none. -/
inductive ClosesLiterals : Text → Prop
  | nil : ClosesLiterals []
  | character {character : Char} {rest : Text} (bare : isQuoteMark character = false)
      (further : ClosesLiterals rest) : ClosesLiterals (character :: rest)
  | literal {literal rest : Text} (closed : IsLiteral literal) (further : ClosesLiterals rest) :
      ClosesLiterals (literal ++ rest)

/-! ### The reader of pieces -/

theorem ne_backslash_of_isQuoteMark {mark : Char} (quotes : isQuoteMark mark = true) : mark ≠ '\\' := by
  rintro rfl
  cases quotes

theorem step_closing {mark : Char} (quotes : isQuoteMark mark = true) :
    (Quotation.within mark false).step mark = .outside :=
  (if_neg fun escape => ne_backslash_of_isQuoteMark quotes escape.1).trans (if_pos rfl)

theorem step_other {mark character : Char} (other : character ≠ mark)
    (unescaping : character = '\\' → mark = '\x60') :
    (Quotation.within mark false).step character = .within mark false :=
  (if_neg fun escape => escape.2 (unescaping escape.1)).trans (if_neg other)

theorem step_escape {mark : Char} (escapes : mark ≠ '\x60') :
    (Quotation.within mark false).step '\\' = .within mark true :=
  if_pos ⟨rfl, escapes⟩

theorem LiteralBody.after {mark : Char} {body : Text} (closed : LiteralBody mark body) :
    (Quotation.within mark false).after body = .within mark false := by
  induction closed with
  | nil => rfl
  | character other unescaping _ ih =>
      change Quotation.after ((Quotation.within mark false).step _) _ = _
      rw [step_other other unescaping, ih]
  | escape escapes _ ih =>
      change Quotation.after (((Quotation.within mark false).step '\\').step _) _ = _
      rw [step_escape escapes]
      exact ih

theorem IsLiteral.after {literal : Text} (closed : IsLiteral literal) :
    Quotation.outside.after literal = .outside := by
  obtain ⟨quotes, body⟩ := closed
  rename_i mark inner
  have opened : Quotation.outside.step mark = .within mark false := if_pos quotes
  change Quotation.after (Quotation.outside.step mark) _ = _
  rw [opened, Quotation.after_append, body.after]
  exact step_closing quotes

/-- A text that leads out of a literal has the closing mark behind a body. The flag says that the body begins
behind a backslash. -/
theorem exists_literalBody {mark : Char} {escaped : Bool} (escapes : escaped = true → mark ≠ '\x60') {text : Text}
    (leaves : (Quotation.within mark escaped).after text = .outside) :
    ∃ body rest, text = body ++ mark :: rest ∧ LiteralBody mark (bif escaped then '\\' :: body else body) ∧
      Quotation.outside.after rest = .outside := by
  have unescaped : false = true → mark ≠ '\x60' := nofun
  induction text generalizing escaped with
  | nil => cases leaves
  | cons character rest ih =>
      cases escaped with
      | true =>
          obtain ⟨body, behind, rfl, closed, outside⟩ := ih unescaped leaves
          exact ⟨character :: body, behind, rfl, .escape (escapes rfl) closed, outside⟩
      | false =>
          change Quotation.after ((Quotation.within mark false).step character) rest = _ at leaves
          by_cases escape : character = '\\' ∧ mark ≠ '\x60'
          · obtain ⟨rfl, escapes⟩ := escape
            rw [step_escape escapes] at leaves
            obtain ⟨body, behind, rfl, closed, outside⟩ := ih (fun _ => escapes) leaves
            exact ⟨'\\' :: body, behind, rfl, closed, outside⟩
          · by_cases closes : character = mark
            · rw [show (Quotation.within mark false).step character = .outside from
                (if_neg escape).trans (if_pos closes)] at leaves
              exact ⟨[], rest, by rw [closes]; rfl, .nil, leaves⟩
            · have unescaping : character = '\\' → mark = '\x60' := fun backslash =>
                not_not.mp fun other => escape ⟨backslash, other⟩
              rw [step_other closes unescaping] at leaves
              obtain ⟨body, behind, rfl, closed, outside⟩ := ih unescaped leaves
              exact ⟨character :: body, behind, rfl, .character closes unescaping closed, outside⟩

/-- The reader of pieces is outside literals behind a text exactly if the text closes all of them. -/
theorem closesLiterals_iff {text : Text} : ClosesLiterals text ↔ Quotation.outside.after text = .outside := by
  constructor
  · intro closes
    induction closes with
    | nil => rfl
    | character bare _ ih =>
        change Quotation.after (Quotation.outside.step _) _ = _
        rw [show Quotation.outside.step _ = .outside from if_neg (Bool.not_eq_true _ ▸ bare), ih]
    | literal closed _ ih => rw [Quotation.after_append, closed.after, ih]
  · intro outside
    induction measured : text.length using Nat.strongRecOn generalizing text with
    | ind size ih =>
        subst measured
        cases text with
        | nil => exact .nil
        | cons character rest =>
            change Quotation.after (Quotation.outside.step character) rest = _ at outside
            by_cases quotes : isQuoteMark character = true
            · rw [show Quotation.outside.step character = .within character false from if_pos quotes] at outside
              have unescaped : false = true → character ≠ '\x60' := nofun
              obtain ⟨body, behind, rfl, closed, further⟩ := exists_literalBody unescaped outside
              have shorter : behind.length < (character :: (body ++ character :: behind)).length := by
                simp only [List.length_cons, List.length_append]
                omega
              have row := ClosesLiterals.literal (.between quotes closed) (ih _ shorter further rfl)
              rwa [List.cons_append, List.append_assoc, List.singleton_append] at row
            · rw [show Quotation.outside.step character = .outside from if_neg quotes] at outside
              exact .character (Bool.eq_false_iff.mpr quotes) (ih _ (Nat.lt_succ_self _) outside rfl)

/-! ### The reader of lines -/

namespace CodeScan

def passText (inert : Text) (scan : CodeScan) : CodeScan :=
  { scan with code := inert ++ scan.code }

end CodeScan

section Scans

open CodeScan

/-- Inside a literal every character is passed. -/
theorem SeesAs.ofText_cons {mark : Char} {escaped : Bool} {zone : Zone} {bound : Bool}
    (sees : SeesAs (.within mark escaped) zone bound) (character : Char) (rest : Text) :
    ∃ after boundAfter, ofText zone bound (character :: rest) = (ofText after boundAfter rest).pass character ∧
      SeesAs ((Quotation.within mark escaped).step character) after boundAfter := by
  obtain ⟨after, boundAfter, reading, still⟩ := sees.within character rest.head?
  refine ⟨after, boundAfter, ?_, still⟩
  rw [CodeScan.ofText_cons, reading]
  rfl

theorem LiteralBody.ofText {mark : Char} {body : Text} (closed : LiteralBody mark body)
    (quotes : isQuoteMark mark = true) {zone : Zone} {bound : Bool}
    (sees : SeesAs (.within mark false) zone bound) (rest : Text) :
    CodeScan.ofText zone bound (body ++ mark :: rest) =
      (CodeScan.ofText .code false rest).passText (body ++ [mark]) := by
  induction closed generalizing zone bound with
  | nil =>
      obtain ⟨after, boundAfter, read, still⟩ := sees.ofText_cons mark rest
      rw [step_closing quotes] at still
      cases still
      exact read
  | @character character body other unescaping _ ih =>
      obtain ⟨after, boundAfter, read, still⟩ := sees.ofText_cons character (body ++ mark :: rest)
      rw [step_other other unescaping] at still
      rw [List.cons_append, read, ih still]
      rfl
  | @escape escaped body escapes _ ih =>
      obtain ⟨after, boundAfter, read, still⟩ := sees.ofText_cons '\\' (escaped :: (body ++ mark :: rest))
      rw [step_escape escapes] at still
      obtain ⟨afterBoth, boundAfterBoth, readBoth, stillBoth⟩ := still.ofText_cons escaped (body ++ mark :: rest)
      rw [List.cons_append, List.cons_append, read, readBoth, ih stillBoth]
      rfl

theorem exists_sees_of_isQuoteMark {mark : Char} (quotes : isQuoteMark mark = true) (next : Option Char) :
    ∃ zone, readCharacter .code false mark next = .inert zone false ∧ SeesAs (.within mark false) zone false := by
  have opened : Quotation.outside.step mark = .within mark false := if_pos quotes
  have unmarked : isMark mark next = false := by
    unfold isMark
    rw [beq_eq_false_iff_ne.mpr (ne_backslash_of_isQuoteMark quotes)]
    have noSlash : (mark == '/') = false := by
      rw [beq_eq_false_iff_ne]
      rintro rfl
      cases quotes
    rw [noSlash]
    rfl
  rcases SeesAs.outside_step mark next unmarked with ⟨zone, reading, -, -, sees⟩ | ⟨-, outside⟩
  · exact ⟨zone, reading, opened ▸ sees⟩
  · rw [opened] at outside
    cases outside

/-- Behind a literal the line is read on as if it began there. -/
theorem IsLiteral.scanCode_append {literal : Text} (closed : IsLiteral literal) (rest : Text) :
    scanCode (literal ++ rest) = (scanCode rest).passText literal := by
  obtain ⟨quotes, body⟩ := closed
  rename_i mark inner
  obtain ⟨zone, reading, sees⟩ := exists_sees_of_isQuoteMark quotes (inner ++ mark :: rest).head?
  rw [List.cons_append, List.append_assoc, List.singleton_append, scanCode, CodeScan.ofText_cons, reading]
  change (CodeScan.ofText zone false (inner ++ mark :: rest)).pass mark = _
  rw [body.ofText quotes sees]
  rfl

theorem ofText_comment_body {body : Text} (unended : ¬['*', '/'] <:+: body) (rest : Text) :
    CodeScan.ofText .block false (body ++ '*' :: '/' :: rest) =
      (CodeScan.ofText .code false rest).passText (body ++ ['*', '/']) := by
  induction body with
  | nil => rfl
  | cons character body ih =>
      have goesOn : readCharacter .block false character (body ++ '*' :: '/' :: rest).head? =
          .inert .block false := by
        refine (if_neg Bool.false_ne_true).trans (if_neg ?_)
        rintro ⟨rfl, slash⟩
        cases body with
        | nil => cases slash
        | cons second body =>
            cases slash
            exact unended ⟨[], body, rfl⟩
      rw [List.cons_append, CodeScan.ofText_cons, goesOn]
      change (CodeScan.ofText .block false (body ++ '*' :: '/' :: rest)).pass character = _
      rw [ih fun inside => unended (List.infix_cons inside)]
      rfl

/-- Behind a block comment the line is read on as if it began there, for the last slash of the comment opens
nothing. -/
theorem IsBlockComment.scanCode_append {comment : Text} (closed : IsBlockComment comment) (rest : Text) :
    scanCode (comment ++ rest) = (scanCode rest).passText comment := by
  obtain ⟨unended⟩ := closed
  rename_i body
  have inner := ofText_comment_body unended rest
  rw [List.cons_append, List.cons_append, List.append_assoc]
  change ((CodeScan.ofText .block false (body ++ '*' :: '/' :: rest)).pass '*').pass '/' = _
  rw [inner]
  rfl

end Scans

/-! ### Insertions -/

/-- Where the line comment of a line begins, or the length of the line if it has none. -/
def commentOffset (line : Text) : Nat :=
  (scanCode line).code.length

theorem sameBraces_of_bare {line other : Text} (same : (scanCode line).bare = (scanCode other).bare) :
    SameBraces line other :=
  .of_count (by rw [same]) (by rw [same])

/-- A line comment takes no brace with it, also where its first slash is the last character of the code. -/
theorem count_bare_append_comment {zone : Zone} {bound : Bool} {front : Text}
    (plain : (CodeScan.ofText zone bound front).comment = none)
    (inCode : (CodeScan.ofText zone bound front).zone = .code)
    (unescaped : (CodeScan.ofText zone bound front).escaped = false) (text : Text) {brace : Char}
    (other : brace ≠ '/') :
    (CodeScan.ofText zone bound (front ++ '/' :: '/' :: text)).bare.count brace =
      (CodeScan.ofText zone bound front).bare.count brace := by
  induction front generalizing zone bound with
  | nil =>
      cases inCode
      cases unescaped
      rfl
  | cons character rest ih =>
      by_cases opens : zone = .code ∧ bound = false ∧ character = '/' ∧ rest = []
      · obtain ⟨rfl, rfl, rfl, rfl⟩ := opens
        exact (List.count_cons_of_ne other.symm).symm
      · have next : CodeScan.readCharacter zone bound character (rest ++ '/' :: '/' :: text).head? =
            CodeScan.readCharacter zone bound character rest.head? := by
          cases rest with
          | cons second further => rfl
          | nil =>
              cases bound with
              | true => rfl
              | false =>
                  cases zone with
                  | block => simp [CodeScan.ofText, CodeScan.pass] at inCode
                  | code =>
                      have noSlash : character ≠ '/' := fun slash => opens ⟨rfl, rfl, slash, rfl⟩
                      simp [CodeScan.readCharacter, noSlash]
                  | _ => rfl
        rw [CodeScan.ofText_cons] at plain inCode unescaped
        rw [List.cons_append, CodeScan.ofText_cons, CodeScan.ofText_cons, next]
        cases reading : CodeScan.readCharacter zone bound character rest.head? with
        | inert after boundAfter =>
            rw [reading] at plain inCode unescaped
            exact ih plain inCode unescaped
        | structural =>
            rw [reading] at plain inCode unescaped
            change (character :: _).count brace = (character :: _).count brace
            rw [List.count_cons, List.count_cons, ih plain inCode unescaped]
        | lineComment =>
            rw [reading] at plain
            cases plain

section Insertions

variable {front : Text} (ends : EndsInCode front)

include ends

/-- A text that is passed over where a line is in code changes no brace of the line. -/
theorem sameBraces_insert {inserted behind : Text}
    (passed : scanCode (inserted ++ behind) = (scanCode behind).passText inserted)
    (apart : ¬MakesMark front behind) (apartToo : ¬MakesMark front (inserted ++ behind)) :
    SameBraces (front ++ (inserted ++ behind)) (front ++ behind) := by
  apply sameBraces_of_bare
  rw [ends.scanCode_apart apart, ends.scanCode_apart apartToo, passed]
  rfl

theorem sameBraces_literal {literal behind : Text} (closed : IsLiteral literal)
    (apart : ¬MakesMark front behind) : SameBraces (front ++ (literal ++ behind)) (front ++ behind) := by
  refine sameBraces_insert ends (closed.scanCode_append behind) apart ?_
  obtain ⟨quotes, -⟩ := closed
  rintro ⟨-, slash | star⟩
  · cases slash
    cases quotes
  · cases star
    cases quotes

/-- Behind a slash a block comment would make a line comment of it. -/
theorem sameBraces_blockComment {comment behind : Text} (closed : IsBlockComment comment)
    (noSlash : front.getLast? ≠ some '/') : SameBraces (front ++ (comment ++ behind)) (front ++ behind) :=
  sameBraces_insert ends (closed.scanCode_append behind) (fun mark => noSlash mark.1) fun mark => noSlash mark.1

theorem sameBraces_lineComment (text : Text) : SameBraces (front ++ '/' :: '/' :: text) front :=
  .of_count (count_bare_append_comment ends.comment ends.zone ends.escaped text (by decide))
    (count_bare_append_comment ends.comment ends.zone ends.escaped text (by decide))

/-- What follows a text that ends in code is read as a line of its own, unless the two make a mark where they meet.
So at the end of such a text closed literals and, not behind a slash, closed block comments can be put into a line
and a line comment can be put behind it, and those who count braces see no difference. -/
theorem inert_insertions :
    (∀ behind, ¬MakesMark front behind →
      (scanCode (front ++ behind)).bare = (scanCode front).bare ++ (scanCode behind).bare ∧
        commentOffset (front ++ behind) = front.length + commentOffset behind ∧
          ∀ literal, IsLiteral literal → SameBraces (front ++ (literal ++ behind)) (front ++ behind)) ∧
      (front.getLast? ≠ some '/' → ∀ comment behind, IsBlockComment comment →
        SameBraces (front ++ (comment ++ behind)) (front ++ behind)) ∧
        ∀ text, SameBraces (front ++ '/' :: '/' :: text) front := by
  refine ⟨fun behind apart => ⟨?_, ?_, ?_⟩, ?_, sameBraces_lineComment ends⟩
  · rw [ends.scanCode_apart apart]
    rfl
  · have whole : (scanCode front).code = front := code_eq_self ends.comment
    unfold commentOffset
    rw [ends.scanCode_apart apart, CodeScan.followedBy, List.length_append, whole]
  · exact fun literal closed => sameBraces_literal ends closed apart
  · exact fun noSlash comment behind closed => sameBraces_blockComment ends closed noSlash

end Insertions

/-- Behind a character literal with a brace and in front of a slash: a string literal with an escaped mark, a block
comment with a quote mark and slashes, and a line comment. -/
theorem inert_insertions_quoted :
    let front := "c == \x27\x7b\x27 ? f() ".toList
    let behind := "/ g(); \x7d".toList
    let literal := '"' :: (['\\', '"', '\x7b'] ++ ['"'])
    let comment := '/' :: '*' :: ([' ', '\x7b', '"', '/', '/'] ++ ['*', '/'])
    EndsInCode front ∧ ¬MakesMark front behind ∧ IsLiteral literal ∧ IsBlockComment comment ∧
      SameBraces (front ++ (literal ++ behind)) (front ++ behind) ∧
        SameBraces (front ++ (comment ++ behind)) (front ++ behind) ∧
          SameBraces (front ++ '/' :: '/' :: behind) front := by
  intro front behind literal comment
  have ends : EndsInCode front := ⟨by decide, by decide, by decide⟩
  have noSlash : front.getLast? ≠ some '/' := by decide
  have apart : ¬MakesMark front behind := fun mark => noSlash mark.1
  have isLiteral : IsLiteral literal :=
    .between rfl (.escape (by decide) (.character (by decide) (by decide) .nil))
  have isComment : IsBlockComment comment := .between (by decide)
  obtain ⟨around, between, appended⟩ := inert_insertions ends
  exact ⟨ends, apart, isLiteral, isComment, (around behind apart).2.2 literal isLiteral,
    between noSlash comment behind isComment, appended behind⟩

end DocSite
