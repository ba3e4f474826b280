/-
Texts read one behind the other.

What follows a text is read on from the zone in which the text ends, unless its first character makes a comment
mark of the last one in front of it. So the code of a line, read alone, has the structure of the line, and a
line comment put behind a line leaves its code as it is.
-/
import DocSite.Comment.Extract
import DocSite.Proofs.Source.Code
import DocSite.Proofs.Text.Words

namespace DocSite

/-! ### Ends of texts -/

namespace Text

theorem trimRight_append_ink {character : Char} (ink : isBlank character = false) (front rest : Text) :
    trimRight (front ++ character :: rest) = front ++ character :: trimRight rest := by
  have stops (behind : Text) : (behind.reverse ++ character :: front.reverse).dropWhile isBlank =
      behind.reverse.dropWhile isBlank ++ character :: front.reverse := by
    rw [List.dropWhile_append]
    by_cases blank : (behind.reverse.dropWhile isBlank).isEmpty = true
    · rw [if_pos blank, List.isEmpty_iff.mp blank, List.dropWhile_cons_of_neg (by rw [ink]; simp)]
      rfl
    · rw [if_neg blank]
  unfold trimRight trimRightBy
  rw [List.reverse_append, List.reverse_cons, List.append_assoc, List.singleton_append, stops,
    List.reverse_append, List.reverse_cons, List.reverse_reverse, List.append_assoc,
    List.singleton_append]

/-- A text is its trimmed beginning with blanks behind it. -/
theorem exists_blanks_trimRight (text : Text) :
    ∃ blanks, text = trimRight text ++ blanks ∧ ∀ character ∈ blanks, isBlank character = true := by
  refine ⟨(text.reverse.takeWhile isBlank).reverse, ?_, ?_⟩
  · unfold trimRight trimRightBy
    rw [← List.reverse_append, List.takeWhile_append_dropWhile, List.reverse_reverse]
  · intro character member
    exact List.mem_takeWhile_imp (List.mem_reverse.mp member)

theorem trimRight_append_blanks (text : Text) {blanks : Text}
    (blank : ∀ character ∈ blanks, isBlank character = true) :
    trimRight (text ++ blanks) = trimRight text := by
  have dropped : blanks.reverse.dropWhile isBlank = [] :=
    List.dropWhile_eq_nil_iff.mpr fun character member => blank character (List.mem_reverse.mp member)
  unfold trimRight trimRightBy
  rw [List.reverse_append, List.dropWhile_append, dropped]
  rfl

theorem head?_trimRight_ne {text : Text} {character : Char} (other : text.head? ≠ some character) :
    (trimRight text).head? ≠ some character := by
  intro first
  obtain ⟨further, begins⟩ := List.head?_eq_some_iff.mp first
  obtain ⟨blanks, whole⟩ := trimRight_begins text
  rw [← whole, begins] at other
  exact other rfl

end Text

namespace CodeScan

/-! ### One text behind another -/

def followedBy (front behind : CodeScan) : CodeScan :=
  ⟨front.bare ++ behind.bare, front.code ++ behind.code, behind.comment, behind.zone, behind.escaped⟩

/-- A character that ends no comment mark does not change how the one in front of it is read. -/
theorem readCharacter_next {next : Option Char} (noSlash : next ≠ some '/') (noStar : next ≠ some '*')
    (zone : Zone) (bound : Bool) (character : Char) :
    readCharacter zone bound character next = readCharacter zone bound character none := by
  cases bound with
  | true => rfl
  | false => cases zone <;> simp [readCharacter, noSlash, noStar]

/-- A text is read in front of another one as it is read alone if this holds of its last character, wherever that
character leads to the zone in which the text ends. -/
theorem ofText_append_of_last {zone : Zone} {bound : Bool} {front behind : Text}
    (plain : (ofText zone bound front).comment = none)
    (last : ∀ start boundStart character, front.getLast? = some character →
      (ofText start boundStart [character]).zone = (ofText zone bound front).zone →
        readCharacter start boundStart character behind.head? = readCharacter start boundStart character none) :
    ofText zone bound (front ++ behind) =
      (ofText zone bound front).followedBy
        (ofText (ofText zone bound front).zone (ofText zone bound front).escaped behind) := by
  induction front generalizing zone bound with
  | nil => rfl
  | cons character rest ih =>
      have next : readCharacter zone bound character (rest ++ behind).head? =
          readCharacter zone bound character rest.head? := by
        cases rest with
        | nil => exact last zone bound character rfl rfl
        | cons second further => rfl
      have lastToo (final : Char) (isLast : rest.getLast? = some final) :
          (character :: rest).getLast? = some final := by
        rw [List.getLast?_cons, isLast]
        rfl
      rw [List.cons_append, ofText_cons, next]
      cases reading : readCharacter zone bound character rest.head? with
      | inert after boundAfter =>
          have whole : ofText zone bound (character :: rest) = (ofText after boundAfter rest).pass character := by
            rw [ofText_cons, reading]
            rfl
          rw [whole] at plain last ⊢
          simp only [Reading.scan]
          rw [ih plain fun start boundStart final isLast => last start boundStart final (lastToo final isLast)]
          rfl
      | structural =>
          have whole : ofText zone bound (character :: rest) = (ofText .code false rest).mark character := by
            rw [ofText_cons, reading]
            rfl
          rw [whole] at plain last ⊢
          simp only [Reading.scan]
          rw [ih plain fun start boundStart final isLast => last start boundStart final (lastToo final isLast)]
          rfl
      | lineComment =>
          rw [ofText_cons, reading] at plain
          cases plain

theorem ofText_append {zone : Zone} {bound : Bool} {front behind : Text}
    (plain : (ofText zone bound front).comment = none) (noSlash : behind.head? ≠ some '/')
    (noStar : behind.head? ≠ some '*') :
    ofText zone bound (front ++ behind) =
      (ofText zone bound front).followedBy
        (ofText (ofText zone bound front).zone (ofText zone bound front).escaped behind) :=
  ofText_append_of_last plain fun start boundStart character _ _ =>
    readCharacter_next noSlash noStar start boundStart character

/-- A character that leads to code is read alike in front of every character with which it makes no mark. -/
theorem readCharacter_last {zone : Zone} {bound : Bool} {character : Char} {next : Option Char}
    (code : (ofText zone bound [character]).zone = .code)
    (apart : character = '/' → next ≠ some '/' ∧ next ≠ some '*') :
    readCharacter zone bound character next = readCharacter zone bound character none := by
  cases bound with
  | true => rfl
  | false =>
      cases zone with
      | block => simp [ofText, pass] at code
      | code =>
          by_cases slash : character = '/'
          · obtain ⟨noSlash, noStar⟩ := apart slash
            exact readCharacter_next noSlash noStar .code false character
          · simp [readCharacter, slash]
      | _ => rfl

/-- Blanks at the end of a text are no braces. -/
theorem count_bare_append_blanks {zone : Zone} {bound : Bool} {front blanks : Text}
    (plain : (ofText zone bound front).comment = none)
    (blank : ∀ character ∈ blanks, isBlank character = true) {brace : Char}
    (ink : isBlank brace = false) :
    (ofText zone bound (front ++ blanks)).bare.count brace =
      (ofText zone bound front).bare.count brace := by
  have noBlank {character : Char} (isInk : isBlank character = false) :
      blanks.head? ≠ some character := by
    intro first
    have contrary := blank character (List.mem_of_mem_head? first)
    rw [isInk] at contrary
    cases contrary
  rw [ofText_append plain (noBlank rfl) (noBlank rfl)]
  have none : (ofText (ofText zone bound front).zone (ofText zone bound front).escaped
      blanks).bare.count brace = 0 := by
    apply List.count_eq_zero.mpr
    intro member
    have contrary := blank brace ((bare_sublist _ _ blanks).mem member)
    rw [ink] at contrary
    cases contrary
  rw [followedBy, List.count_append, none, Nat.add_zero]

/-! ### Code read again -/

/-- The code of a text begins with the text, unless the text is a line comment. -/
theorem head?_code (zone : Zone) (bound : Bool) (text : Text) :
    (ofText zone bound text).code.head? = text.head? ∨
      (ofText zone bound text).code = [] ∧ zone = .code ∧ bound = false ∧ text.head? = some '/' := by
  cases text with
  | nil => exact .inl rfl
  | cons character rest =>
      rw [ofText_cons]
      cases reading : readCharacter zone bound character rest.head? with
      | inert after boundAfter => exact .inl rfl
      | structural => exact .inl rfl
      | lineComment =>
          obtain ⟨inCode, unbound, slash, _⟩ := readCharacter_eq_lineComment reading
          exact .inr ⟨rfl, inCode, unbound, congrArg some slash⟩

/-- A character in front of a line comment is read as it is at the end of a text. -/
theorem readCharacter_end {zone : Zone} {bound : Bool} {character : Char} {reading : Reading}
    (found : readCharacter zone bound character (some '/') = reading)
    (before : reading = .inert .code false ∨ reading = .structural) :
    readCharacter zone bound character none = reading := by
  subst found
  cases bound with
  | true => rfl
  | false =>
      cases zone with
      | code =>
          by_cases slash : character = '/'
          · subst slash
            rcases before with inert | structural
            · cases inert
            · cases structural
          · simp [readCharacter, slash]
      | string => rfl
      | character => rfl
      | raw => rfl
      | block =>
          by_cases star : character = '*'
          · subst star
            rcases before with inert | structural
            · cases inert
            · cases structural
          · simp [readCharacter, star]

/-- The code of a text has its structure. -/
theorem bare_code (zone : Zone) (bound : Bool) (text : Text) :
    (ofText zone bound (ofText zone bound text).code).bare = (ofText zone bound text).bare := by
  -- Only the character in front of a line comment has another one behind it when the code is read alone.
  induction text generalizing zone bound with
  | nil => rfl
  | cons character rest ih =>
      rw [ofText_cons]
      cases reading : readCharacter zone bound character rest.head? with
      | inert after boundAfter =>
          have again : readCharacter zone bound character (ofText after boundAfter rest).code.head? =
              .inert after boundAfter := by
            rcases head?_code after boundAfter rest with same | ⟨nothing, inCode, unbound, slash⟩
            · rw [same, reading]
            · rw [slash] at reading
              rw [nothing]
              exact readCharacter_end reading (.inl (by rw [inCode, unbound]))
          simp only [Reading.scan, pass]
          rw [ofText_cons, again]
          exact ih after boundAfter
      | structural =>
          have again : readCharacter zone bound character (ofText .code false rest).code.head? =
              .structural := by
            rcases head?_code .code false rest with same | ⟨nothing, _, _, slash⟩
            · rw [same, reading]
            · rw [slash] at reading
              rw [nothing]
              exact readCharacter_end reading (.inr rfl)
          simp only [Reading.scan, mark]
          rw [ofText_cons, again]
          exact congrArg (List.cons character) (ih .code false)
      | lineComment => rfl

end CodeScan

/-! ### The code of a line -/

theorem count_bare_codeOf (line : Text) {brace : Char} (ink : isBlank brace = false) :
    (scanCode (codeOf line)).bare.count brace = (scanCode line).bare.count brace := by
  obtain ⟨blanks, whole, blank⟩ := Text.exists_blanks_trimRight (scanCode line).code
  have plain := (CodeScan.ofText_of_prefix_code (Text.trimRight_begins (scanCode line).code)).2
  have counted := CodeScan.count_bare_append_blanks plain blank ink
  rw [← whole] at counted
  exact counted.symm.trans (congrArg (List.count brace) (CodeScan.bare_code .code false line))

/-- Lines with the same braces for those who count them. -/
structure SameBraces (line other : Text) : Prop where
  delta : braceDelta line = braceDelta other
  opens : opensBrace line = opensBrace other

theorem SameBraces.of_count {line other : Text}
    (opener : (scanCode line).bare.count '\x7b' = (scanCode other).bare.count '\x7b')
    (closer : (scanCode line).bare.count '\x7d' = (scanCode other).bare.count '\x7d') :
    SameBraces line other where
  delta := by
    unfold braceDelta
    dsimp only
    rw [opener, closer]
  opens := by
    unfold opensBrace
    rw [Bool.eq_iff_iff, List.contains_iff_mem, List.contains_iff_mem, ← List.count_pos_iff,
      ← List.count_pos_iff, opener]

/-- The braces of a line are those of its code. -/
theorem sameBraces_codeOf (line : Text) : SameBraces (codeOf line) line :=
  .of_count (count_bare_codeOf line rfl) (count_bare_codeOf line rfl)

theorem braceDelta_codeOf (line : Text) : braceDelta (codeOf line) = braceDelta line :=
  (sameBraces_codeOf line).delta

theorem opensBrace_codeOf (line : Text) : opensBrace (codeOf line) = opensBrace line :=
  (sameBraces_codeOf line).opens

/-! ### Comments behind a line -/

/-- A line that ends outside literals and comments, and not behind an escaping backslash. -/
structure EndsInCode (line : Text) : Prop where
  comment : (scanCode line).comment = none
  zone : (scanCode line).zone = .code
  escaped : (scanCode line).escaped = false

theorem code_eq_self {zone : Zone} {bound : Bool} {text : Text}
    (plain : (CodeScan.ofText zone bound text).comment = none) :
    (CodeScan.ofText zone bound text).code = text := by
  induction text generalizing zone bound with
  | nil => rfl
  | cons character rest ih =>
      rw [CodeScan.ofText_cons] at plain ⊢
      cases reading : CodeScan.readCharacter zone bound character rest.head? with
      | inert after boundAfter =>
          rw [reading] at plain
          exact congrArg (List.cons character) (ih plain)
      | structural =>
          rw [reading] at plain
          exact congrArg (List.cons character) (ih plain)
      | lineComment =>
          rw [reading] at plain
          cases plain

/-- Without slashes there is no line comment. -/
theorem comment_eq_none {zone : Zone} {bound : Bool} {text : Text} (absent : '/' ∉ text) :
    (CodeScan.ofText zone bound text).comment = none := by
  induction text generalizing zone bound with
  | nil => rfl
  | cons character rest ih =>
      rw [List.mem_cons, not_or] at absent
      rw [CodeScan.ofText_cons]
      cases reading : CodeScan.readCharacter zone bound character rest.head? with
      | inert after boundAfter => exact ih absent.2
      | structural => exact ih absent.2
      | lineComment => exact absurd (CodeScan.readCharacter_eq_lineComment reading).2.2.1.symm absent.1

/-- A trimmed text without a line comment is code from end to end. -/
theorem codeOf_trim_eq_self {text : Text} (plain : (scanCode text).comment = none)
    (trimmed : Text.trim text = text) : codeOf (Text.trim text) = text := by
  have ink : Text.StartsInk text := by
    rw [← trimmed]
    exact Text.startsInk_trim text
  have right : Text.trimRight text = text := by
    rw [← Text.trim_eq_trimRight ink]
    exact trimmed
  rw [trimmed]
  exact (congrArg Text.trimRight (code_eq_self plain)).trans right

theorem scanCode_cons_blank {blank : Char} (isBlank' : isBlank blank = true) (rest : Text) :
    scanCode (blank :: rest) = (scanCode rest).mark blank := by
  have ink (character : Char) (isInk : isBlank character = false) : blank ≠ character := by
    intro same
    rw [same, isInk] at isBlank'
    cases isBlank'
  have structural : CodeScan.readCharacter .code false blank rest.head? = .structural := by
    simp [CodeScan.readCharacter, ink '\\' rfl, ink '"' rfl, ink '\x27' rfl, ink '\x60' rfl, ink '/' rfl]
  unfold scanCode
  rw [CodeScan.ofText_cons, structural]
  rfl

theorem commentStyle?_eq_none_iff (line : Text) :
    commentStyle? line = none ↔ ∀ second rest, line = '/' :: second :: rest →
      second ≠ '+' ∧ second ≠ '*' ∧ (second = '/' → rest.head? ≠ some '/') := by
  constructor
  · intro noComment second rest same
    subst same
    refine ⟨?_, ?_, ?_⟩
    · rintro rfl
      cases noComment
    · rintro rfl
      cases noComment
    · rintro rfl third
      obtain ⟨further, same⟩ := List.head?_eq_some_iff.mp third
      rw [same] at noComment
      cases noComment
  · intro allowed
    unfold commentStyle?
    split
    · exact absurd rfl ((allowed _ _ rfl).2.2 rfl)
    · exact absurd rfl (allowed _ _ rfl).1
    · exact absurd rfl (allowed _ _ rfl).2.1
    · rfl

/-- A line comment that goes on with no slash is no documentation comment. -/
theorem commentStyle?_line_comment {text : Text} (plain : text.head? ≠ some '/') :
    commentStyle? ('/' :: '/' :: Text.trimRight text) = none := by
  rw [commentStyle?_eq_none_iff]
  intro second rest same
  cases same
  exact ⟨by decide, by decide, fun _ => Text.head?_trimRight_ne plain⟩

/-- The text of a line with a line comment behind it, trimmed. -/
theorem trim_append_comment (line text : Text) :
    Text.trimLeft line = [] ∧
        Text.trim (line ++ ' ' :: '/' :: '/' :: text) = '/' :: '/' :: Text.trimRight text ∨
      Text.trimLeft line ≠ [] ∧
        Text.trim (line ++ ' ' :: '/' :: '/' :: text) =
          Text.trimLeft line ++ ' ' :: '/' :: '/' :: Text.trimRight text := by
  have whole : Text.trim (line ++ ' ' :: '/' :: '/' :: text) =
      Text.trimRight (Text.trimLeft (line ++ ' ' :: '/' :: '/' :: text)) := rfl
  have left : Text.trimLeft (line ++ ' ' :: '/' :: '/' :: text) =
      if (Text.trimLeft line).isEmpty then '/' :: '/' :: text
      else Text.trimLeft line ++ ' ' :: '/' :: '/' :: text :=
    List.dropWhile_append
  rw [whole, left]
  by_cases blank : (Text.trimLeft line).isEmpty = true
  · rw [if_pos blank]
    exact .inl ⟨List.isEmpty_iff.mp blank, Text.trimRight_append_ink rfl ['/'] text⟩
  · rw [if_neg blank]
    refine .inr ⟨fun empty => blank (List.isEmpty_iff.mpr empty), ?_⟩
    have slash : isBlank '/' = false := rfl
    have ends := Text.trimRight_append_ink slash (Text.trimLeft line ++ [' ', '/']) text
    simpa only [List.append_assoc, List.cons_append, List.nil_append] using ends

/-- The last character of a text and the first one behind it look like the mark of a comment. -/
def MakesMark (front behind : Text) : Prop :=
  front.getLast? = some '/' ∧ (behind.head? = some '/' ∨ behind.head? = some '*')

/-- What follows a text that ends in code is read as a line of its own. -/
theorem EndsInCode.scanCode_apart {front behind : Text} (ends : EndsInCode front)
    (apart : ¬MakesMark front behind) :
    scanCode (front ++ behind) = (scanCode front).followedBy (scanCode behind) := by
  have inCode : (CodeScan.ofText .code false front).zone = .code := ends.zone
  have read := CodeScan.ofText_append_of_last ends.comment fun start boundStart character isLast same =>
    CodeScan.readCharacter_last (same.trans inCode) fun slash =>
      ⟨fun second => apart ⟨slash ▸ isLast, .inl second⟩, fun second => apart ⟨slash ▸ isLast, .inr second⟩⟩
  rw [inCode, show (CodeScan.ofText .code false front).escaped = false from ends.escaped] at read
  exact read

namespace EndsInCode

variable {line : Text}

theorem trimLeft (ends : EndsInCode line) : EndsInCode (Text.trimLeft line) := by
  induction line with
  | nil => exact ends
  | cons character rest ih =>
      unfold Text.trimLeft Text.trimLeftBy
      by_cases blank : isBlank character = true
      · rw [List.dropWhile_cons_of_pos blank]
        obtain ⟨comment, zone, escaped⟩ := ends
        rw [scanCode_cons_blank blank] at comment zone escaped
        exact ih ⟨comment, zone, escaped⟩
      · rwa [List.dropWhile_cons_of_neg blank]

/-- A line without a comment is code. -/
theorem codeOf_trimLeft (ends : EndsInCode line) : codeOf (Text.trimLeft line) = Text.trim line := by
  unfold codeOf splitLineComment
  dsimp only
  rw [scanCode, code_eq_self ends.trimLeft.comment]
  rfl

theorem splitLineComment_trim (ends : EndsInCode line) :
    splitLineComment (Text.trim line) = (Text.trim line, []) := by
  rw [← ends.codeOf_trimLeft]
  exact splitLineComment_codeOf (Text.trimLeft line)

theorem splitLineComment_append (ends : EndsInCode line) (text : Text) :
    splitLineComment (Text.trim (line ++ ' ' :: '/' :: '/' :: text)) =
      (Text.trim line, Text.trimRight text) := by
  rcases trim_append_comment line text with ⟨blank, same⟩ | ⟨_, same⟩
  · have trimmed : Text.trim line = Text.trimRight (Text.trimLeft line) := rfl
    rw [same, trimmed, blank]
    rfl
  · obtain ⟨plain, zone, escaped⟩ := ends.trimLeft
    have joined : scanCode (Text.trimLeft line ++ ' ' :: '/' :: '/' :: Text.trimRight text) =
        (scanCode (Text.trimLeft line)).followedBy
          ⟨[' '], [' '], some (Text.trimRight text), .code, false⟩ := by
      have slash : (' ' :: '/' :: '/' :: Text.trimRight text).head? ≠ some '/' := by simp
      have star : (' ' :: '/' :: '/' :: Text.trimRight text).head? ≠ some '*' := by simp
      have read := CodeScan.ofText_append plain slash star
      rw [show (CodeScan.ofText .code false (Text.trimLeft line)).zone = .code from zone,
        show (CodeScan.ofText .code false (Text.trimLeft line)).escaped = false from escaped] at read
      exact read
    unfold splitLineComment
    rw [same, joined]
    simp only [CodeScan.followedBy, Option.getD_some]
    have blank : ∀ character ∈ [' '], isBlank character = true := by
      intro character member
      cases List.mem_singleton.mp member
      rfl
    rw [Text.trimRight_append_blanks _ blank, scanCode, code_eq_self plain]
    rfl

/-- A line comment behind a line opens no documentation comment. -/
theorem commentStyle?_append (ends : EndsInCode line) {text : Text} (plain : text.head? ≠ some '/')
    (noComment : commentStyle? (Text.trim line) = none) :
    commentStyle? (Text.trim (line ++ ' ' :: '/' :: '/' :: text)) = none := by
  rcases trim_append_comment line text with ⟨_, same⟩ | ⟨filled, same⟩
  · rw [same]
    exact commentStyle?_line_comment plain
  · rw [same, commentStyle?_eq_none_iff]
    have trimmed : Text.trim line = Text.trimRight (Text.trimLeft line) := rfl
    have noLineComment := ends.trimLeft.comment
    rw [trimmed] at noComment
    intro second rest begins
    -- The blank in front of the line comment cannot be part of a mark, so the mark would stand in the line.
    cases start : Text.trimLeft line with
    | nil => exact absurd start filled
    | cons first further =>
        rw [start] at begins noComment noLineComment
        cases further with
        | nil =>
            cases begins
            exact ⟨by decide, by decide, fun blank => absurd blank (by decide)⟩
        | cons third others =>
            cases begins
            have inside {mark : Char} (ink : isBlank mark = false) (here : second = mark) :
                Text.trimRight ('/' :: second :: others) = '/' :: mark :: Text.trimRight others := by
              rw [here]
              exact Text.trimRight_append_ink ink ['/'] others
            refine ⟨?_, ?_, ?_⟩
            · intro plus
              rw [inside rfl plus] at noComment
              cases noComment
            · intro star
              rw [inside rfl star] at noComment
              cases noComment
            · rintro rfl
              cases noLineComment

end EndsInCode

/-- A repetition marker looks like a documentation comment. -/
theorem isDitto_eq_false {line : Text} (trimmed : Text.trim line = line)
    (noComment : commentStyle? line = none) : isDitto line = false := by
  unfold isDitto
  rw [trimmed]
  cases found : Text.afterPrefix? "///".toList line with
  | none => rfl
  | some rest =>
      have begins : line = "///".toList ++ rest := Text.eq_append_of_afterPrefix? found
      rw [begins] at noComment
      cases noComment

end DocSite
