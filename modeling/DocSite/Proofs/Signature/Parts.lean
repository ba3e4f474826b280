/-
The parts of a signature.

A function that is read from code has its name and its return type from the words in front of the parameter
list and its parameters from between the parentheses. So all of them are pieces of the code, and none of them
reaches its last character: a semicolon that was put behind the code is part of no part.
-/
import DocSite.Signature.Parse
import DocSite.Proofs.Source.Pieces

namespace DocSite

/-- The parts of a signature stand in a text. A result that is not written is `void`. -/
structure FunctionDoc.QuotedFrom (declared : FunctionDoc) (text : Text) : Prop where
  name : declared.name <:+: text
  parameters : ∀ parameter ∈ declared.parameters, parameter <:+: text
  returnType : declared.returnType = "void".toList ∨
    ∀ token ∈ Text.words declared.returnType, token <:+: text

theorem FunctionDoc.QuotedFrom.mono {declared : FunctionDoc} {text longer : Text}
    (quoted : declared.QuotedFrom text) (inside : text <:+: longer) : declared.QuotedFrom longer := by
  constructor
  · exact quoted.name.trans inside
  · intro parameter member
    exact (quoted.parameters parameter member).trans inside
  · rcases quoted.returnType with unwritten | tokens
    · exact .inl unwritten
    · exact .inr fun token member => (tokens token member).trans inside

/-! ### Reading -/

theorem nameAndType?_eq_some {words : List Text} {name type : Text}
    (found : nameAndType? words = some (name, type)) :
    ∃ front, words = front ++ [name] ∧
      (isConstructorName name = true ∧ type = [] ∨ front = [] ∧ type = "void".toList ∨
        front ≠ [] ∧ type = Text.join [' '] front) := by
  unfold nameAndType? at found
  split at found
  · cases found
  · rename_i last isLast
    refine ⟨words.dropLast, ?_⟩
    have whole : words = words.dropLast ++ [last] :=
      (List.dropLast_append_getLast? last isLast).symm
    dsimp only at found
    split_ifs at found with constructs alone
    · cases found
      exact ⟨whole, .inl ⟨constructs, rfl⟩⟩
    · cases found
      exact ⟨whole, .inr (.inl ⟨List.isEmpty_iff.mp alone, rfl⟩)⟩
    · cases found
      exact ⟨whole, .inr (.inr ⟨fun empty => alone (List.isEmpty_iff.mpr empty), rfl⟩)⟩

structure FunctionDoc.Parsed (declared : FunctionDoc) (code before after parameters : Text) : Prop where
  cut : cutAtParameters? code = some (before, after)
  inside : parameterText? after = some parameters
  named : nameAndType? (Text.words before) = some (declared.name, declared.returnType)
  listed : declared.parameters = (splitTopLevelAt ',' parameters).filter fun piece => !piece.isEmpty

theorem parsed_of_parseSignature? {code : Text} {comments : List Text} {number : Int}
    {declared : FunctionDoc} (found : parseSignature? code comments number = some declared) :
    declared.line = number ∧ ∃ before after parameters, declared.Parsed code before after parameters := by
  unfold parseSignature? at found
  split at found
  · cases found
  · rename_i before after cut
    split at found
    · cases found
    · rename_i parameters inside
      obtain ⟨named, read, equal⟩ := Option.map_eq_some_iff.mp found
      rw [← equal]
      exact ⟨rfl, before, after, parameters, cut, inside, read, rfl⟩

/-- The words in front of a name are the words of the return type that is put together from them. -/
theorem words_join_of_words {before name : Text} {front : List Text}
    (split : Text.words before = front ++ [name]) : Text.words (Text.join [' '] front) = front := by
  have isWord {word : Text} (member : word ∈ front) : word.IsWordOf before := by
    apply Text.isWordOf_of_mem_words
    rw [split]
    exact List.mem_append_left _ member
  apply Text.words_join
  · intro word member
    exact (isWord member).ne_nil
  · intro word member
    exact (isWord member).ink

/-! ### Pieces -/

/-- A closer stands behind the parameters. -/
theorem concat_infix_of_parameterText? {afterParen parameters : Text}
    (found : parameterText? afterParen = some parameters) : parameters ++ [')'] <:+: afterParen := by
  have closed {inside rest text : Text} (whole : text = inside ++ ')' :: rest) :
      inside ++ [')'] <:+: text := by
    rw [whole]
    exact Text.concat_isInfix _ _ _
  unfold parameterText? at found
  split at found
  · obtain ⟨parts, cut, equal⟩ := Option.map_eq_some_iff.mp found
    rw [← equal]
    exact closed (Cursor.eq_of_cutAt? cut)
  · rename_i inside rest first
    have whole : afterParen = inside ++ ')' :: rest := Cursor.eq_of_cutAtCloser? first
    split at found
    · rename_i second behind
      split at found
      · rename_i others _ closedAgain
        cases found
        -- The second group stands behind the closer of the first one.
        have inner : '(' :: second <:+: rest := by
          rw [← behind]
          exact Text.trimLeft_isInfix rest
        apply (closed (Cursor.eq_of_cutAtCloser? closedAgain)).trans
        apply (List.infix_cons List.infix_rfl).trans
        apply inner.trans
        rw [whole]
        exact Text.behind_isInfix _ _ _
      · cases found
        exact closed whole
    · cases found
      exact closed whole

/-- The words in front of the parameter list lie in front of the last character. -/
theorem before_infix_of_cutAtParameters? {code before after text : Text} {last : Char}
    (cut : cutAtParameters? code = some (before, after)) (within : code <:+: text ++ [last]) :
    before <:+: text := by
  have whole : code = before ++ '(' :: after := Cursor.eq_of_cutAtParameters? cut
  have starts : before ++ ['('] <:+: code := by
    rw [whole]
    exact Text.concat_isInfix _ _ _
  exact Text.infix_of_concat_infix_concat (starts.trans within)

theorem FunctionDoc.Parsed.quotedFrom {declared : FunctionDoc} {code before after parameters text : Text}
    {last : Char} (parsed : declared.Parsed code before after parameters)
    (within : code <:+: text ++ [last]) : declared.QuotedFrom text := by
  have whole : code = before ++ '(' :: after := Cursor.eq_of_cutAtParameters? parsed.cut
  have word {piece : Text} (member : piece ∈ Text.words before) : piece <:+: text :=
    (Text.isWordOf_of_mem_words member).piece.trans
      (before_infix_of_cutAtParameters? parsed.cut within)
  obtain ⟨front, split, types⟩ := nameAndType?_eq_some parsed.named
  constructor
  · apply word
    rw [split]
    exact List.mem_append_right front (List.mem_singleton_self _)
  · intro parameter member
    rw [parsed.listed] at member
    have piece := Text.infix_of_mem_splitTopLevelAt (List.mem_filter.mp member).1
    have closed : parameters ++ [')'] <:+: code := by
      apply (concat_infix_of_parameterText? parsed.inside).trans
      rw [whole]
      exact Text.behind_isInfix _ _ _
    exact piece.trans (Text.infix_of_concat_infix_concat (closed.trans within))
  · rcases types with ⟨_, none⟩ | ⟨_, unwritten⟩ | ⟨_, written⟩
    · rw [none]
      exact .inr nofun
    · exact .inl unwritten
    · refine .inr ?_
      intro token member
      rw [written, words_join_of_words split] at member
      apply word
      rw [split]
      exact List.mem_append_left _ member

end DocSite
