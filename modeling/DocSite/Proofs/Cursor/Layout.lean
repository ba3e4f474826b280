/-
Indentation and line ends.

Each scan that goes by positions looks at the raw lines, but at nothing of them beyond their trimmed texts: on
lines that differ in the blanks at their ends it gives the same result from every position, inside comments,
containers and bodies as well. So the documentation depends neither on indentation nor on trailing blanks. The
line that a join of lines may leave off is blank, and a carriage return in front of a line feed ends no other
line.
-/
import DocSite.Proofs.Cursor.Extraction
import DocSite.Proofs.Walk.Invisible

namespace DocSite

/-! ### Blanks at the ends -/

def Text.IsPadding (text : Text) : Prop :=
  ∀ character ∈ text, isBlank character = true

instance (text : Text) : Decidable text.IsPadding :=
  List.decidableBAll _ text

/-- Two texts that differ only in the blanks in front of them and behind them. -/
def Text.Reindents (text other : Text) : Prop :=
  ∃ core left right left' right' : Text, left.IsPadding ∧ right.IsPadding ∧ left'.IsPadding ∧
    right'.IsPadding ∧ text = left ++ core ++ right ∧ other = left' ++ core ++ right'

theorem Text.trim_pad {left right : Text} (leading : left.IsPadding) (trailing : right.IsPadding)
    (core : Text) : Text.trim (left ++ core ++ right) = Text.trim core := by
  have dropped : Text.trimLeft (left ++ core ++ right) = Text.trimLeft (core ++ right) := by
    rw [List.append_assoc]
    exact List.dropWhile_append_of_pos leading
  have trimmed (text : Text) : Text.trim text = Text.trimRight (Text.trimLeft text) := rfl
  rw [trimmed, dropped, trimmed]
  have parts : Text.trimLeft (core ++ right) =
      if (Text.trimLeft core).isEmpty then Text.trimLeft right else Text.trimLeft core ++ right :=
    List.dropWhile_append
  rw [parts]
  split
  · rename_i blank
    have nothing : Text.trimLeft right = [] := List.dropWhile_eq_nil_iff.mpr trailing
    rw [nothing, List.isEmpty_iff.mp blank]
  · exact Text.trimRight_append_blanks (Text.trimLeft core) trailing

theorem Text.Reindents.trim {text other : Text} (reindents : text.Reindents other) :
    Text.trim other = Text.trim text := by
  obtain ⟨core, left, right, left', right', leading, trailing, leading', trailing', same, same'⟩ := reindents
  rw [same, same', Text.trim_pad leading trailing, Text.trim_pad leading' trailing']

theorem map_trim_of_reindents {lines others : List Text}
    (alike : List.Forall₂ Text.Reindents lines others) : others.map Text.trim = lines.map Text.trim := by
  induction alike with
  | nil => rfl
  | cons here further ih => rw [List.map_cons, List.map_cons, here.trim, ih]

theorem numberedLines_eq {lines others : List Text} (same : others.map Text.trim = lines.map Text.trim)
    (number : Nat) : numberedLines number others = numberedLines number lines := by
  induction lines generalizing others number with
  | nil => rw [List.map_eq_nil_iff.mp same]
  | cons line rest ih =>
      cases others with
      | nil => cases same
      | cons other others =>
          obtain ⟨here, further⟩ := List.cons.inj same
          rw [numberedLines, numberedLines, here, ih further]

/-! ### Scans by position -/

namespace Cursor

variable {lines others : List Text}

section Trimmed

variable (same : others.map Text.trim = lines.map Text.trim)

include same

theorem length_eq : others.length = lines.length := by
  have lengths := congrArg List.length same
  rwa [List.length_map, List.length_map] at lengths

theorem linesFrom_eq (position : Nat) : linesFrom others position = linesFrom lines position := by
  apply numberedLines_eq
  rw [List.map_drop, List.map_drop, same]

theorem lineAt_eq (position : Nat) : lineAt others position = lineAt lines position := by
  have trimmed (texts : List Text) : lineAt texts position =
      (texts.map Text.trim)[position]?.elim (.error (.pastEnd position)) .ok := by
    unfold lineAt
    rw [List.getElem?_map]
    cases texts[position]? <;> rfl
  rw [trimmed, trimmed, same]

end Trimmed

theorem trim_getElem_eq (same : others.map Text.trim = lines.map Text.trim) {position : Nat}
    (inside : position < lines.length) (alsoInside : position < others.length) :
    Text.trim others[position] = Text.trim lines[position] := by
  have here := lineAt_eq same position
  rw [lineAt_eq_ok inside, lineAt_eq_ok alsoInside] at here
  exact Except.ok.inj here

/-- Two places with the same lines behind them are the same place. -/
theorem resume_eq (same : others.map Text.trim = lines.map Text.trim) {resume resume' : Nat}
    (within : resume ≤ lines.length) (within' : resume' ≤ others.length)
    (remains : linesFrom others resume' = linesFrom lines resume) : resume' = resume := by
  have lengths := congrArg List.length remains
  unfold linesFrom at lengths
  rw [length_numberedLines, length_numberedLines, List.length_drop, List.length_drop] at lengths
  have whole := length_eq same
  omega

theorem Follows.agree {Result : Type} (same : others.map Text.trim = lines.map Text.trim)
    {position : Nat} {scan scan' : Scan (Result × Nat)} {plain plain' : Result × List Line}
    (follows : Follows lines position scan plain) (follows' : Follows others position scan' plain')
    (told : plain' = plain) : scan' = scan := by
  obtain ⟨resume, succeeds, remains, _, within⟩ := follows
  obtain ⟨resume', succeeds', remains', _, within'⟩ := follows'
  have place := resume_eq same within within' (remains'.symm.trans ((congrArg Prod.snd told).trans remains))
  rw [succeeds, succeeds', told, place]

section Positions

variable (same : others.map Text.trim = lines.map Text.trim) {position : Nat}
  (inside : position < lines.length) (inside' : position < others.length)

include same inside inside'

theorem lineOf_eq : lineOf others position inside' = lineOf lines position inside := by
  exact congrArg (Line.mk (position + 1)) (trim_getElem_eq same inside inside')

theorem commentAt_agree : commentAt others position = commentAt lines position := by
  have here := trim_getElem_eq same inside inside'
  cases opens : commentStyle? (Text.trim lines[position]) with
  | none =>
      unfold commentAt
      rw [lineAt_eq same, lineAt_eq_ok inside]
      simp only [bind, Except.bind, opens]
  | some style =>
      apply (commentAt_follows inside opens).agree same (commentAt_follows inside' (here ▸ opens))
      rw [lineOf_eq same inside inside', linesFrom_eq same]

theorem skipBodyAt_agree : skipBodyAt others position = skipBodyAt lines position := by
  obtain ⟨resume, succeeds, remains, _, within⟩ := skipBodyAt_follows inside
  obtain ⟨resume', succeeds', remains', _, within'⟩ := skipBodyAt_follows inside'
  rw [lineOf_eq same inside inside', linesFrom_eq same, remains] at remains'
  rw [succeeds, succeeds', resume_eq same within within' remains'.symm]

theorem scanAggregateAt_agree (comments : List Text) :
    scanAggregateAt others position comments = scanAggregateAt lines position comments := by
  have here := trim_getElem_eq same inside inside'
  cases accepted : matchHeader? (Text.trim lines[position]) with
  | none =>
      unfold scanAggregateAt
      rw [lineAt_eq same, lineAt_eq_ok inside]
      simp only [bind, Except.bind, accepted]
  | some header =>
      cases sort : header.kind with
      | enum =>
          unfold scanAggregateAt
          rw [lineAt_eq same, lineAt_eq_ok inside]
          simp only [bind, Except.bind, accepted, sort]
      | aggregate kind =>
          apply (scanAggregateAt_follows inside accepted sort comments).agree same
            (scanAggregateAt_follows inside' (here ▸ accepted) sort comments)
          rw [lineOf_eq same inside inside', linesFrom_eq same]

theorem scanEnumAt_agree (comments : List Text) :
    scanEnumAt others position comments = scanEnumAt lines position comments := by
  have here := trim_getElem_eq same inside inside'
  cases accepted : matchHeader? (Text.trim lines[position]) with
  | none =>
      unfold scanEnumAt
      rw [lineAt_eq same, lineAt_eq_ok inside]
      simp only [bind, Except.bind, accepted]
  | some header =>
      cases sort : header.kind with
      | enum =>
          apply (scanEnumAt_follows inside accepted sort comments).agree same
            (scanEnumAt_follows inside' (here ▸ accepted) sort comments)
          rw [lineOf_eq same inside inside', linesFrom_eq same]
      | aggregate kind =>
          unfold scanEnumAt
          rw [lineAt_eq same, lineAt_eq_ok inside]
          simp only [bind, Except.bind, accepted, sort]

theorem codeAt_agree (register : CommentRegister) :
    codeAt others position register = codeAt lines position register := by
  obtain ⟨resume, succeeds, remains, _, within⟩ := codeAt_follows inside register
  obtain ⟨resume', succeeds', remains', _, within'⟩ := codeAt_follows inside' register
  rw [lineOf_eq same inside inside', linesFrom_eq same] at succeeds' remains'
  rw [succeeds, succeeds', resume_eq same within within' (remains'.symm.trans remains)]

theorem stepAt_agree (register : CommentRegister) :
    stepAt others position register = stepAt lines position register := by
  have code := codeAt_agree same inside inside' register
  have here := lineOf_eq same inside inside'
  unfold stepAt
  cases found : register.consume? (lineOf lines position inside) (linesFrom lines (position + 1)) with
  | none =>
      have found' := found
      rw [← here, ← linesFrom_eq same] at found'
      rw [consumeAt_eq_none inside found, consumeAt_eq_none inside' found']
      exact code
  | some turn =>
      obtain ⟨next, remaining⟩ := turn
      have found' := found
      rw [← here, ← linesFrom_eq same] at found'
      obtain ⟨resume, succeeds, remains, _, within⟩ := consumeAt_follows inside found
      obtain ⟨resume', succeeds', remains', _, within'⟩ := consumeAt_follows inside' found'
      rw [succeeds, succeeds', resume_eq same within within' (remains'.symm.trans remains)]
      rfl

end Positions

structure AgreeAt (lines others : List Text) (position : Nat) : Prop where
  comment : commentAt others position = commentAt lines position
  body : skipBodyAt others position = skipBodyAt lines position
  aggregate : ∀ comments, scanAggregateAt others position comments = scanAggregateAt lines position comments
  enum : ∀ comments, scanEnumAt others position comments = scanEnumAt lines position comments
  step : ∀ register, stepAt others position register = stepAt lines position register

theorem agreeAt (same : others.map Text.trim = lines.map Text.trim) (position : Nat) :
    AgreeAt lines others position := by
  by_cases inside : position < lines.length
  · have inside' : position < others.length := by
      rw [length_eq same]
      exact inside
    constructor
    · exact commentAt_agree same inside inside'
    · exact skipBodyAt_agree same inside inside'
    · exact scanAggregateAt_agree same inside inside'
    · exact scanEnumAt_agree same inside inside'
    · exact stepAt_agree same inside inside'
  · -- Behind the last line every scan fails at its first look.
    have fails : lineAt lines position = .error (.pastEnd position) := by
      simp only [lineAt, List.getElem?_eq_none (Nat.le_of_not_lt inside)]
    constructor
    · unfold commentAt
      rw [lineAt_eq same, fails]
      rfl
    · unfold skipBodyAt
      rw [lineAt_eq same, fails]
      rfl
    · intro comments
      unfold scanAggregateAt
      rw [lineAt_eq same, fails]
      rfl
    · intro comments
      unfold scanEnumAt
      rw [lineAt_eq same, fails]
      rfl
    · intro register
      unfold stepAt consumeAt
      rw [lineAt_eq same, fails]
      rfl

end Cursor

/-! ### The end of the lines -/

/-- A blank line at the end adds nothing, not even inside a comment. -/
theorem extractLines_append_blank (file : FilePath) (texts : List Text) {blank : Text}
    (padding : blank.IsPadding) :
    extractLines file (numberedLines 1 (texts ++ [blank])) = extractLines file (numberedLines 1 texts) := by
  have unseen : IsUnseen blank := ⟨blank, padding, .inl rfl⟩
  unfold extractLines
  rw [ModuleWalk.moduleEntries_eq_read, ModuleWalk.moduleEntries_eq_read, numberedLines_append,
    ModuleWalk.read_append]
  congr 1
  by_cases inside : (ModuleWalk.start.read (numberedLines 1 texts)).inComment = true
  · exact ModuleWalk.entries_step_of_inComment inside _
  · have still := (unseen.unseen (1 + texts.length)).step_eq (Bool.eq_false_iff.mpr inside)
    exact congrArg ModuleWalk.entries still

namespace Text

theorem lines_oneLine {text : Text} (filled : text ≠ []) (oneLine : OneLine text) : lines text = [text] := by
  induction text with
  | nil => exact absurd rfl filled
  | cons character rest ih =>
      rw [lines_cons (oneLine character List.mem_cons_self)]
      cases rest with
      | nil => rfl
      | cons next others =>
          rw [ih (List.cons_ne_nil _ _) fun other member => oneLine other (List.mem_cons_of_mem _ member)]
          rfl

/-- Lines that are joined by line feeds are read back, except for an empty one at the end. -/
theorem lines_join {texts : List Text} (oneLine : ∀ text ∈ texts, OneLine text) :
    lines (join ['\n'] texts) = texts ∨ texts = lines (join ['\n'] texts) ++ [[]] := by
  induction texts with
  | nil => exact .inl rfl
  | cons text rest ih =>
      have here := oneLine text List.mem_cons_self
      cases rest with
      | nil =>
          cases text with
          | nil => exact .inr rfl
          | cons character others => exact .inl (lines_oneLine (List.cons_ne_nil _ _) here)
      | cons next others =>
          have joined : lines (join ['\n'] (text :: next :: others)) =
              text :: lines (join ['\n'] (next :: others)) := by
            rw [join, List.append_assoc, List.singleton_append, lines_append_break here]
            exact nofun
          rw [joined]
          rcases ih fun other member => oneLine other (List.mem_cons_of_mem _ member) with whole | short
          · exact .inl (congrArg (List.cons text) whole)
          · exact .inr (congrArg (List.cons text) short)

def withCarriageReturns (text : Text) : Text :=
  text.flatMap fun character => if character = '\n' then ['\r', '\n'] else [character]

theorem lines_withCarriageReturns {text : Text}
    (feeds : ∀ character ∈ text, isLineBreak character = true → character = '\n') :
    lines (withCarriageReturns text) = lines text := by
  induction text with
  | nil => rfl
  | cons character rest ih =>
      have further := ih fun other member => feeds other (List.mem_cons_of_mem character member)
      have unfolded : withCarriageReturns (character :: rest) =
          (if character = '\n' then ['\r', '\n'] else [character]) ++ withCarriageReturns rest :=
        List.flatMap_cons
      rw [unfolded]
      by_cases feed : character = '\n'
      · rw [if_pos feed, feed]
        change [] :: lines (withCarriageReturns rest) = [] :: lines rest
        rw [further]
      · have unbroken : isLineBreak character = false := by
          cases broken : isLineBreak character with
          | false => rfl
          | true => exact absurd (feeds character List.mem_cons_self broken) feed
        rw [if_neg feed, List.singleton_append, lines_cons unbroken, lines_cons unbroken, further]

end Text

theorem extractModule_join (file : FilePath) {texts : List Text}
    (oneLine : ∀ text ∈ texts, Text.OneLine text) :
    extractModule file (Text.join ['\n'] texts) = extractLines file (numberedLines 1 texts) := by
  unfold extractModule sourceLines
  rcases Text.lines_join oneLine with whole | short
  · rw [whole]
  · have padding : Text.IsPadding [] := nofun
    have trimmed := extractLines_append_blank file (Text.lines (Text.join ['\n'] texts)) padding
    rw [← short] at trimmed
    exact trimmed.symm

/-! ### The whole source -/

/-- Blanks at the ends of lines and carriage returns in front of line feeds change no documentation. -/
theorem extractModule_layout (file : FilePath) :
    (∀ lines others : List Text, List.Forall₂ Text.Reindents lines others →
      (∀ position, Cursor.AgreeAt lines others position) ∧
        extractLines file (numberedLines 1 others) = extractLines file (numberedLines 1 lines)) ∧
    (∀ lines others : List Text, List.Forall₂ Text.Reindents lines others →
      (∀ line ∈ lines, Text.OneLine line) → (∀ line ∈ others, Text.OneLine line) →
        extractModule file (Text.join ['\n'] others) = extractModule file (Text.join ['\n'] lines)) ∧
    ∀ source : Text, (∀ character ∈ source, isLineBreak character = true → character = '\n') →
      extractModule file source.withCarriageReturns = extractModule file source := by
  refine ⟨?_, ?_, ?_⟩
  · intro lines others alike
    have same := map_trim_of_reindents alike
    refine ⟨Cursor.agreeAt same, ?_⟩
    rw [numberedLines_eq same]
  · intro lines others alike oneLine oneLine'
    rw [extractModule_join file oneLine, extractModule_join file oneLine',
      numberedLines_eq (map_trim_of_reindents alike)]
  · intro source feeds
    unfold extractModule sourceLines
    rw [Text.lines_withCarriageReturns feeds]

theorem extractModule_layout_indented_comment :
    let lines : List Text := ["/**".toList, "One.".toList, " */".toList, "void f();".toList]
    let others : List Text := ["  /**".toList, "\tOne. ".toList, "*/".toList, "    void f();".toList]
    let source : Text := "/// One.\nvoid f();\n".toList
    (∀ position, Cursor.AgreeAt lines others position) ∧
      extractModule anonymousFile (Text.join ['\n'] others) =
        extractModule anonymousFile (Text.join ['\n'] lines) ∧
      extractModule anonymousFile source.withCarriageReturns = extractModule anonymousFile source := by
  intro lines others source
  obtain ⟨byLines, joined, returns⟩ := extractModule_layout anonymousFile
  have alike : List.Forall₂ Text.Reindents lines others := by
    refine .cons ?_ (.cons ?_ (.cons ?_ (.cons ?_ .nil)))
    · exact ⟨"/**".toList, [], [], [' ', ' '], [], by decide, by decide, by decide, by decide, rfl, rfl⟩
    · exact ⟨"One.".toList, [], [], ['\t'], [' '], by decide, by decide, by decide, by decide, rfl, rfl⟩
    · exact ⟨"*/".toList, [' '], [], [], [], by decide, by decide, by decide, by decide, rfl, rfl⟩
    · exact ⟨"void f();".toList, [], [], "    ".toList, [], by decide, by decide, by decide, by decide,
        rfl, rfl⟩
  have feeds : source.all (fun character => !isLineBreak character || character == '\n') = true := by decide
  refine ⟨(byLines lines others alike).1, joined lines others alike ?_ ?_, returns source ?_⟩
  · decide
  · decide
  · intro character member breaks
    have told := List.all_eq_true.mp feeds character member
    rw [breaks] at told
    exact beq_iff_eq.mp told

end DocSite
