/-
What accepted code looks like.

Accepted code has a parameter list, and in front of it a name but neither a point nor an equals sign. No statement
is led by its first word. The early acceptance of constructors bypasses the checks that look for statements,
assignments and points, so what these say is read off the spelling of a constructor there.
-/
import DocSite.Proofs.Signature.Decision
import DocSite.Proofs.Signature.Names
import DocSite.Proofs.Signature.ParameterList

namespace DocSite

/-! ### In front of the parameter list -/

structure IsSignatureFront (front : Text) : Prop where
  words : Text.words front ≠ []
  noEquals : '=' ∉ front
  noPoint : '.' ∉ front

theorem IsConstructorCode.isSignatureFront {code lead name blanks behind : Text}
    (constructs : IsConstructorCode code lead name blanks behind) :
    IsSignatureFront (lead ++ (name ++ blanks)) := by
  have absent {mark : Char} (ink : isBlank mark = false) (noName : isNameChar mark = false)
      (other : mark ≠ '~') : mark ∉ lead ++ (name ++ blanks) := by
    intro member
    rcases List.mem_append.mp member with inLead | further
    · exact constructs.lead.not_mem ink noName inLead
    · rcases List.mem_append.mp further with inName | space
      · have this : Text.IsWord "this".toList := Text.isWord_of_isIdentifier rfl
        have spelled : mark = '~' ∨ mark ∈ "this".toList := by
          rcases constructs.name with same | same
          · exact .inr (by rw [← same]; exact inName)
          · exact List.mem_cons.mp (by rw [same] at inName; exact inName)
        rcases spelled with tilde | letter
        · exact other tilde
        · rw [this.names mark letter] at noName
          cases noName
      · rw [constructs.blanks mark space] at ink
        cases ink
  refine ⟨?_, absent rfl rfl (by decide), absent rfl rfl (by decide)⟩
  obtain ⟨filled, ink, _⟩ := constructs.isWord
  obtain ⟨front, words⟩ := constructs.lead.words (name ++ blanks)
  rw [words, Text.words_append_blanks filled ink constructs.blanks]
  exact List.append_ne_nil_of_right_ne_nil front (List.cons_ne_nil name [])

/-- The words that the check of the shape has seen are all there is in front of the parameter list. -/
theorem isSignatureFront_of_shape {code : Text} (accepted : checkSignatureShape code = some true) :
    ∃ before after, cutAtParameters? code = some (before, after) ∧ IsSignatureFront before := by
  unfold checkSignatureShape at accepted
  split at accepted
  · cases accepted
  · rename_i before after cut
    refine ⟨before, after, cut, ?_⟩
    dsimp only at accepted
    split at accepted
    · cases accepted
    · rename_i plain
      rw [Bool.not_eq_true, List.any_eq_false] at plain
      have absent {mark : Char} (ink : isBlank mark = false)
          (seen : ∀ word ∈ Text.words before, mark ∉ word) : mark ∉ before := by
        intro member
        obtain ⟨word, listed, inside⟩ := Text.exists_word_of_mem member ink
        exact seen word listed inside
      have clean {word : Text} (listed : word ∈ Text.words before) : '.' ∉ word ∧ '=' ∉ word := by
        have unseen := plain word listed
        simp only [Bool.or_eq_true, List.contains_iff_mem, not_or] at unseen
        exact unseen
      refine ⟨?_, absent rfl fun word listed => (clean listed).2, absent rfl fun word listed => (clean listed).1⟩
      intro nothing
      rw [nothing] at accepted
      cases accepted

/-- Accepted code has a parameter list and something to name in front of it. -/
theorem exists_front_of_accepted {code : Text} (accepted : isSignatureCode code = true) :
    ∃ before after, cutAtParameters? code = some (before, after) ∧ IsSignatureFront before := by
  rcases (isSignatureCode_iff.mp accepted).2 with constructs | ⟨_, _, _, shape⟩
  · obtain ⟨lead, name, blanks, behind, isCode⟩ := checkConstructor_cases constructs
    exact ⟨_, behind, isCode.cutAtParameters?, isCode.isSignatureFront⟩
  · exact isSignatureFront_of_shape shape

/-! ### Reading -/

/-- Accepted code is read unless its parameter list stays open. -/
theorem parseSignature?_eq_none_iff {code : Text} (accepted : isSignatureCode code = true)
    (comments : List Text) (number : Int) :
    parseSignature? code comments number = none ↔ code.LeavesListOpen := by
  obtain ⟨before, after, cut, front⟩ := exists_front_of_accepted accepted
  have named : ∃ named, nameAndType? (Text.words before) = some named := by
    unfold nameAndType?
    rw [List.getLast?_eq_some_getLast front.words]
    dsimp only
    split_ifs <;> exact ⟨_, rfl⟩
  obtain ⟨named, isNamed⟩ := named
  have read : parseSignature? code comments number = none ↔ ')' ∉ after := by
    unfold parseSignature?
    rw [cut, ← parameterText?_eq_none_iff]
    dsimp only
    rw [isNamed]
    cases parameterText? after with
    | none => exact iff_of_true rfl rfl
    | some parameters => exact iff_of_false nofun nofun
  rw [read]
  constructor
  · intro open_
    rcases cutAtParameters?_cases cut with ⟨first, _⟩ | ⟨start, argument, behind, linked, _⟩
    · -- The first parenthesis of accepted code is closed.
      obtain ⟨start, rest, found, closes⟩ := exists_parentheses_of_accepted accepted
      rw [Cursor.eq_of_cutAtParameters? cut, Text.cutAt?_append first] at found
      cases found
      exact absurd closes open_
    · exact ⟨start, argument, behind, after, linked, open_⟩
  · rintro ⟨start, argument, behind, rest, linked, open_⟩
    rw [linked.cutAtParameters?] at cut
    cases cut
    exact open_

/-! ### The leading word -/

def Text.ClosesBlocks (closed : Text) : Prop :=
  ∀ character ∈ closed, character = '\x7d' ∨ character = ' ' ∨ character = '\t'

/-- The first word of code behind closing braces, spaces and tabs, and what follows that word. -/
structure Text.LedBy (code word behind : Text) : Prop where
  whole : ∃ closed : Text, closed.ClosesBlocks ∧ code = closed ++ (word ++ behind)
  starts : Text.startsName word = true
  letters : ∀ character ∈ word, isWordChar character = true
  ends : Text.EndsWord behind

inductive LeadsStatement : Text → Text → Prop
  | control {word behind : Text} (listed : word ∈ controlFlowKeywords) : LeadsStatement word behind
  | declaration {word behind : Text} (listed : word ∈ declarationKeywords) : LeadsStatement word behind
  | static {blanks second rest : Text} (blank : ∀ character ∈ blanks, isBlank character = true)
      (listed : second ∈ staticControlKeywords) (ends : Text.EndsWord rest) :
      LeadsStatement "static".toList (blanks ++ (second ++ rest))
  | guarded {word blanks rest : Text} (listed : word ∈ guardedKeywords)
      (blank : ∀ character ∈ blanks, isBlank character = true) :
      LeadsStatement word (blanks ++ '(' :: rest)

section Leading

variable {code word behind rest : Text}

theorem Text.ledBy_identifier (identifier : Text.isIdentifier word = true) (ends : Text.EndsWord behind) :
    (word ++ behind).LedBy word behind :=
  ⟨⟨[], nofun, rfl⟩, Text.startsName_self identifier, (Text.isWord_of_isIdentifier identifier).letters, ends⟩

theorem Text.LedBy.leadingWord? (led : code.LedBy word behind) :
    DocSite.leadingWord? (afterClosedBlocks code) = some (word, behind) := by
  obtain ⟨closed, closers, whole⟩ := led.whole
  have dropped : afterClosedBlocks code = word ++ behind := by
    unfold afterClosedBlocks
    rw [whole, List.dropWhile_append_of_pos]
    · cases word with
      | nil =>
          have starts := led.starts
          cases starts
      | cons character others =>
          have name := isNameChar_of_isNameStart led.starts
          have brace : character ≠ '\x7d' := ne_of_isNameChar name rfl
          have space : character ≠ ' ' := ne_of_isNameChar name rfl
          have tab : character ≠ '\t' := ne_of_isNameChar name rfl
          rw [List.cons_append, List.dropWhile_cons_of_neg]
          simp only [Bool.or_eq_true, beq_iff_eq, brace, space, tab, or_self, not_false_eq_true]
    · intro character member
      simp only [Bool.or_eq_true, beq_iff_eq, or_assoc]
      exact closers character member
  rw [dropped]
  exact leadingWord?_append led.starts led.letters led.ends

/-- The check for statements rejects whatever leads one. -/
theorem checkControlFlow_of_ledBy (led : code.LedBy word behind) (leads : LeadsStatement word behind) :
    checkControlFlow code = some false := by
  have keywords : (∀ second ∈ staticControlKeywords, Text.isIdentifier second = true) ∧
      "static".toList ∉ controlFlowKeywords ∧ "static".toList ∉ declarationKeywords := by decide
  unfold checkControlFlow
  rw [led.leadingWord?]
  dsimp only
  cases leads with
  | control listed => rw [List.contains_iff_mem.mpr listed, Bool.true_or, if_pos rfl]
  | declaration listed => rw [List.contains_iff_mem.mpr listed, Bool.or_true, if_pos rfl]
  | @static blanks second rest blank listed ends =>
      have identifier := keywords.1 second listed
      have isWord := Text.isWord_of_isIdentifier identifier
      rw [Text.trimLeft_blanks_append blank (isWord.startsInk rest),
        leadingWord?_append (Text.startsName_self identifier) isWord.letters ends]
      simp [listed]
  | @guarded _ blanks rest listed blank =>
      have ink : Text.StartsInk ('(' :: rest) := Text.startsInk_cons rfl
      rw [Text.trimLeft_blanks_append blank ink]
      simp [listed, Text.beginsWith, Text.afterPrefix?]

theorem LeadsStatement.listed (leads : LeadsStatement word behind) :
    word ∈ controlFlowKeywords ∨ word ∈ declarationKeywords ∨ word = "static".toList ∨ word ∈ guardedKeywords := by
  cases leads with
  | control listed => exact .inl listed
  | declaration listed => exact .inr (.inl listed)
  | static => exact .inr (.inr (.inl rfl))
  | guarded listed => exact .inr (.inr (.inr listed))

/-- A constructor is led by its name or by an access modifier, and a destructor by no word at all. -/
theorem IsConstructorCode.led {lead name blanks after : Text}
    (constructs : IsConstructorCode code lead name blanks after) :
    (∃ rest, code = '~' :: rest) ∨ ∃ stem ∈ "this".toList :: accessModifiers, ∃ tail, code.LedBy stem tail := by
  have identifiers : ∀ stem ∈ "this".toList :: accessModifiers, Text.isIdentifier stem = true := by decide
  have led {stem tail : Text} (listed : stem ∈ "this".toList :: accessModifiers) (ends : Text.EndsWord tail)
      (split : code = stem ++ tail) : code.LedBy stem tail := by
    rw [split]
    exact Text.ledBy_identifier (identifiers stem listed) ends
  rcases constructs.lead with none | ⟨modifier, listed, gap, filled, blank, equal⟩
  · rcases constructs.name with same | same
    · refine .inr ⟨"this".toList, List.mem_cons_self, blanks ++ '(' :: after, ?_⟩
      apply led List.mem_cons_self
      · exact Text.endsWord_blanks_append constructs.blanks (Text.endsWord_cons rfl)
      · rw [constructs.whole, none, same]
        rfl
    · refine .inl ⟨"this".toList ++ (blanks ++ '(' :: after), ?_⟩
      rw [constructs.whole, none, same]
      rfl
  · refine .inr ⟨modifier, List.mem_cons_of_mem _ listed, gap ++ (name ++ (blanks ++ '(' :: after)), ?_⟩
    apply led (List.mem_cons_of_mem _ listed)
    · exact Text.endsWord_gap filled blank _
    · rw [constructs.whole, equal, List.append_assoc]

/-- No statement is led by the first word of a constructor. -/
theorem IsConstructorCode.not_leadsStatement {lead name blanks after : Text}
    (constructs : IsConstructorCode code lead name blanks after) (led : code.LedBy word behind) :
    ¬LeadsStatement word behind := by
  intro leads
  have read := led.leadingWord?
  rcases constructs.led with ⟨rest, split⟩ | ⟨stem, listed, tail, ledByStem⟩
  · have unread : DocSite.leadingWord? (afterClosedBlocks ('~' :: rest)) = none := rfl
    rw [split, unread] at read
    cases read
  · rw [ledByStem.leadingWord?] at read
    cases read
    have unlisted : ∀ stem ∈ "this".toList :: accessModifiers, ¬(stem ∈ controlFlowKeywords ∨
        stem ∈ declarationKeywords ∨ stem = "static".toList ∨ stem ∈ guardedKeywords) := by decide
    exact unlisted word listed leads.listed

/-- No statement is accepted, nor a declaration of another kind. -/
theorem not_leadsStatement_of_accepted (accepted : isSignatureCode code = true)
    (led : code.LedBy word behind) : ¬LeadsStatement word behind := by
  rcases (isSignatureCode_iff.mp accepted).2 with constructs | ⟨_, silent, _⟩
  · obtain ⟨lead, name, blanks, after, isCode⟩ := checkConstructor_cases constructs
    exact isCode.not_leadsStatement led
  · intro leads
    rw [checkControlFlow_of_ledBy led leads] at silent
    cases silent

end Leading

/-! ### Signatures -/

/-- The parameter list of the code opens at a position. In front of it stands neither an equals sign nor a
point, and the code is led by no statement. -/
structure Text.DeclaresAt (code : Text) (position : Nat) : Prop where
  opens : code[position]? = some '('
  noEquals : '=' ∉ code.take position
  noPoint : '.' ∉ code.take position
  led : ∀ word behind, code.LedBy word behind → ¬LeadsStatement word behind

theorem declaresAt_of_accepted {code : Text} (accepted : isSignatureCode code = true) :
    ∃ position, parameterParen? code = some position ∧ code.DeclaresAt position := by
  obtain ⟨before, after, cut, front⟩ := exists_front_of_accepted accepted
  have whole : code = before ++ '(' :: after := Cursor.eq_of_cutAtParameters? cut
  have taken : code.take before.length = before := by
    rw [whole]
    exact List.take_left
  refine ⟨before.length, ?_, ?_, ?_, ?_, fun _ _ led => not_leadsStatement_of_accepted accepted led⟩
  · unfold parameterParen?
    rw [cut]
    rfl
  · rw [whole, List.getElem?_append_right le_rfl, Nat.sub_self]
    rfl
  · rw [taken]
    exact front.noEquals
  · rw [taken]
    exact front.noPoint

end DocSite
