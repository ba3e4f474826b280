/-
Names of functions.

Only two of the checks accept a line. The one for constructors looks at the name; the one for the shape of a
signature looks at the name unless the word in front of it is itself an identifier and no keyword, which it takes
for a type. The name is read again behind the checks, from the words in front of the parameter list, and is the
word that they have seen.
-/
import DocSite.Proofs.Signature.Decision
import DocSite.Proofs.Signature.ParameterList
import DocSite.Proofs.Source.Append
import DocSite.Proofs.Walk.Provenance

namespace DocSite

structure Text.IsBareWord (word : Text) : Prop where
  ne_nil : word ≠ []
  ink : ∀ character ∈ word, isBlank character = false
  noPoint : '.' ∉ word
  noEquals : '=' ∉ word

/-- Whether a word is an identifier that is neither a modifier nor a built-in type. Array brackets and pointer
stars at its end do not count. -/
def Text.IsTypeName (word : Text) : Prop :=
  Text.isIdentifier (dropTypeSuffix word) = true ∧ dropTypeSuffix word ∉ signatureKeywords

def FunctionDoc.WellNamed (declared : FunctionDoc) : Prop :=
  Text.isIdentifier declared.name = true ∨ isConstructorName declared.name = true ∨
    ∃ type, (Text.words declared.returnType).getLast? = some type ∧ type.IsTypeName ∧
      declared.name.IsBareWord

/-! ### Constructors -/

def IsConstructorLead (lead : Text) : Prop :=
  lead = [] ∨ ∃ modifier ∈ accessModifiers, ∃ blanks, blanks ≠ [] ∧
    (∀ character ∈ blanks, isBlank character = true) ∧ lead = modifier ++ blanks

structure IsConstructorCode (code lead name blanks behind : Text) : Prop where
  whole : code = lead ++ (name ++ (blanks ++ '(' :: behind))
  lead : IsConstructorLead lead
  name : name = "this".toList ∨ name = "~this".toList
  blanks : ∀ character ∈ blanks, isBlank character = true

/-- What an opener behind a keyword and blanks looks like. -/
theorem exists_opener_of_afterPrefix? {keyword text rest : Text}
    (found : Text.afterPrefix? keyword text = some rest)
    (opens : Text.beginsWith ['('] (Text.trimLeft rest) = true) :
    ∃ blanks behind, text = keyword ++ (blanks ++ '(' :: behind) ∧
      ∀ character ∈ blanks, isBlank character = true := by
  obtain ⟨behind, here⟩ := Option.isSome_iff_exists.mp opens
  refine ⟨rest.takeWhile isBlank, behind, ?_, fun _ member => List.mem_takeWhile_imp member⟩
  have split : Text.trimLeft rest = '(' :: behind := Text.eq_append_of_afterPrefix? here
  rw [Text.eq_append_of_afterPrefix? found, ← split]
  exact congrArg _ List.takeWhile_append_dropWhile.symm

theorem startsConstructor_cases {code : Text} (starts : startsConstructor code = true) :
    ∃ name blanks behind, IsConstructorCode code [] name blanks behind := by
  unfold startsConstructor at starts
  dsimp only at starts
  split at starts
  · rename_i rest found
    cases tilde : Text.afterPrefix? ['~'] code with
    | none =>
        rw [tilde] at found
        obtain ⟨blanks, behind, whole, blank⟩ := exists_opener_of_afterPrefix? found starts
        exact ⟨"this".toList, blanks, behind, whole, .inl rfl, .inl rfl, blank⟩
    | some name =>
        rw [tilde] at found
        obtain ⟨blanks, behind, whole, blank⟩ := exists_opener_of_afterPrefix? found starts
        refine ⟨"~this".toList, blanks, behind, ?_, .inl rfl, .inr rfl, blank⟩
        have split : code = ['~'] ++ name := Text.eq_append_of_afterPrefix? tilde
        rw [split]
        exact congrArg (List.cons '~') whole
  · cases starts

theorem afterAccessModifier?_cases {code rest : Text} (found : afterAccessModifier? code = some rest) :
    ∃ lead, IsConstructorLead lead ∧ code = lead ++ rest := by
  obtain ⟨modifier, listed, inner⟩ := List.exists_of_findSome?_eq_some found
  split at inner
  · rename_i tail matched
    split at inner
    · rename_i spaced
      cases inner
      refine ⟨modifier ++ tail.takeWhile isBlank, .inr ⟨modifier, listed, _, ?_, ?_, rfl⟩, ?_⟩
      · cases tail with
        | nil => cases spaced
        | cons character others =>
            have blank : isBlank character = true := spaced
            rw [List.takeWhile_cons_of_pos blank]
            exact List.cons_ne_nil _ _
      · exact fun _ member => List.mem_takeWhile_imp member
      · rw [Text.eq_append_of_afterPrefix? matched, List.append_assoc]
        exact congrArg _ List.takeWhile_append_dropWhile.symm
    · cases inner
  · cases inner

theorem checkConstructor_cases {code : Text} (accepted : checkConstructor code = some true) :
    ∃ lead name blanks behind, IsConstructorCode code lead name blanks behind := by
  unfold checkConstructor at accepted
  split at accepted
  · rename_i starts
    rcases Bool.or_eq_true_iff.mp starts with bare | modified
    · obtain ⟨name, blanks, behind, constructs⟩ := startsConstructor_cases bare
      exact ⟨[], name, blanks, behind, constructs⟩
    · cases found : afterAccessModifier? code with
      | none =>
          rw [found] at modified
          cases modified
      | some rest =>
          rw [found] at modified
          obtain ⟨name, blanks, behind, constructs⟩ := startsConstructor_cases modified
          obtain ⟨lead, isLead, split⟩ := afterAccessModifier?_cases found
          refine ⟨lead, name, blanks, behind, ?_, isLead, constructs.name, constructs.blanks⟩
          rw [split]
          exact congrArg (lead ++ ·) constructs.whole
  · cases accepted

/-- The last character of a text that is not blank is one character. -/
theorem Text.last_ink_eq {front other blanks others : Text} {first second : Char}
    (ink : isBlank first = false) (alsoInk : isBlank second = false)
    (blank : ∀ character ∈ blanks, isBlank character = true)
    (alsoBlank : ∀ character ∈ others, isBlank character = true)
    (same : front ++ [first] ++ blanks = other ++ [second] ++ others) : first = second := by
  have trimmed := congrArg Text.trimRight same
  rw [Text.trimRight_append_blanks _ blank, Text.trimRight_append_blanks _ alsoBlank,
    Text.trimRight_concat front ink, Text.trimRight_concat other alsoInk] at trimmed
  exact List.cons.inj (List.append_inj_right' trimmed rfl) |>.1

section Constructor

variable {code lead name blanks behind : Text}

theorem IsConstructorCode.isWord (constructs : IsConstructorCode code lead name blanks behind) :
    name ≠ [] ∧ (∀ character ∈ name, isBlank character = false) ∧ '(' ∉ name := by
  have isWord : Text.IsWord "this".toList := Text.isWord_of_isIdentifier rfl
  rcases constructs.name with same | same
  · rw [same]
    exact ⟨isWord.ne_nil, isWord.ink, by decide⟩
  · rw [same]
    exact ⟨List.cons_ne_nil _ _, List.forall_mem_cons.mpr ⟨rfl, isWord.ink⟩, by decide⟩

theorem IsConstructorCode.name_ends (constructs : IsConstructorCode code lead name blanks behind) :
    ∃ start, name = start ++ ['s'] := by
  rcases constructs.name with same | same
  · exact ⟨"thi".toList, same⟩
  · exact ⟨"~thi".toList, same⟩

/-- The words in front of the name of a constructor. -/
theorem IsConstructorLead.words (isLead : IsConstructorLead lead) (rest : Text) :
    ∃ front, Text.words (lead ++ rest) = front ++ Text.words rest := by
  rcases isLead with none | ⟨modifier, listed, blanks, filled, blank, equal⟩
  · rw [none]
    exact ⟨[], rfl⟩
  · have identifiers : ∀ word ∈ accessModifiers, Text.isIdentifier word = true := by decide
    have isWord := Text.isWord_of_isIdentifier (identifiers modifier listed)
    refine ⟨[modifier], ?_⟩
    rw [equal, List.append_assoc, Text.words_append_gap isWord.ne_nil isWord.ink filled blank]
    rfl

theorem IsConstructorLead.not_mem (isLead : IsConstructorLead lead) {mark : Char}
    (ink : isBlank mark = false) (noName : isNameChar mark = false) : mark ∉ lead := by
  intro member
  rcases isLead with none | ⟨modifier, listed, blanks, _, blank, equal⟩
  · rw [none] at member
    cases member
  · have identifiers : ∀ word ∈ accessModifiers, Text.isIdentifier word = true := by decide
    rw [equal] at member
    rcases List.mem_append.mp member with inside | space
    · rw [(Text.isWord_of_isIdentifier (identifiers modifier listed)).names mark inside] at noName
      cases noName
    · rw [blank mark space] at ink
      cases ink

/-- The name of a constructor does not open the argument of a linkage. -/
theorem IsConstructorCode.not_linked (constructs : IsConstructorCode code lead name blanks behind) :
    ¬(lead ++ (name ++ blanks)).EndsLinked := by
  rintro ⟨front, between, found, nothing⟩
  -- Otherwise this code would end with two different letters.
  obtain ⟨start, ends⟩ := constructs.name_ends
  have blank := Text.blank_of_trim_eq_nil nothing
  have left : lead ++ (name ++ blanks) = (lead ++ start) ++ ['s'] ++ blanks := by
    rw [ends]
    simp only [List.append_assoc]
  have right : lead ++ (name ++ blanks) = (front ++ "exter".toList) ++ ['n'] ++ between := by
    rw [Text.eq_of_cut? found]
    simp only [List.append_assoc]
    rfl
  have same := Text.last_ink_eq (by decide) (by decide) constructs.blanks blank (left.symm.trans right)
  cases same

/-- The first parenthesis of a constructor opens its parameter list. -/
theorem IsConstructorCode.cutAtParameters? (constructs : IsConstructorCode code lead name blanks behind) :
    cutAtParameters? code = some (lead ++ (name ++ blanks), behind) := by
  have whole : code = (lead ++ (name ++ blanks)) ++ '(' :: behind := by
    rw [constructs.whole]
    simp only [List.append_assoc]
  rw [whole]
  refine cutAtParameters?_unlinked ?_ constructs.not_linked
  intro member
  rcases List.mem_append.mp member with inLead | further
  · exact constructs.lead.not_mem rfl rfl inLead
  · rcases List.mem_append.mp further with inName | space
    · exact constructs.isWord.2.2 inName
    · cases constructs.blanks '(' space

end Constructor

/-! ### Accepted statements -/

section Accepted

variable {code : Text} {declared : FunctionDoc} {before after parameters : Text}

/-- The name of a constructor is the last word in front of its parameter list. -/
theorem FunctionDoc.Parsed.constructorName (parsed : declared.Parsed code before after parameters)
    (accepted : checkConstructor code = some true) : isConstructorName declared.name = true := by
  obtain ⟨lead, name, blanks, behind, constructs⟩ := checkConstructor_cases accepted
  have cut := parsed.cut
  rw [constructs.cutAtParameters?] at cut
  cases cut
  obtain ⟨ne, ink, _⟩ := constructs.isWord
  obtain ⟨front, words⟩ := constructs.lead.words (name ++ blanks)
  rw [Text.words_append_blanks ne ink constructs.blanks] at words
  obtain ⟨others, split, _⟩ := nameAndType?_eq_some parsed.named
  rw [words] at split
  rw [← List.singleton_inj.mp (List.append_inj_right' split rfl)]
  rcases constructs.name with same | same <;> rw [same] <;> rfl

/-- A word in front of a name that the check of the shape accepts is a keyword, or itself a type. -/
theorem wellNamed_of_shapeOfPair {type name : Text} (accepted : shapeOfPair type name = true) :
    Text.isIdentifier name = true ∨ isConstructorName name = true ∨ type.IsTypeName := by
  unfold shapeOfPair at accepted
  simp only [Bool.or_eq_true, Bool.and_eq_true, Bool.not_eq_true'] at accepted
  rcases accepted with ⟨_, identifier | destructor⟩ | ⟨identifier, other⟩
  · exact .inl identifier
  · refine .inr (.inl ?_)
    unfold isConstructorName
    rw [destructor, Bool.or_true]
  · refine .inr (.inr ⟨identifier, ?_⟩)
    intro listed
    rw [List.contains_iff_mem.mpr listed] at other
    cases other

theorem FunctionDoc.Parsed.wellNamed_of_shape (parsed : declared.Parsed code before after parameters)
    (accepted : checkSignatureShape code = some true) : declared.WellNamed := by
  obtain ⟨front, split, types⟩ := nameAndType?_eq_some parsed.named
  have isWord : declared.name.IsWordOf before := by
    apply Text.isWordOf_of_mem_words
    rw [split]
    exact List.mem_append_right front (List.mem_singleton_self declared.name)
  unfold checkSignatureShape at accepted
  rw [parsed.cut] at accepted
  dsimp only at accepted
  rw [split, List.reverse_append, List.reverse_singleton, List.singleton_append] at accepted
  split at accepted
  · cases accepted
  · rename_i plain
    rcases List.eq_nil_or_concat front with alone | ⟨others, type, many⟩
    · rw [alone] at accepted
      exact .inl (Option.some.inj accepted)
    · rw [List.concat_eq_append] at many
      rw [many, List.reverse_append, List.reverse_singleton, List.singleton_append] at accepted
      rcases wellNamed_of_shapeOfPair (Option.some.inj accepted) with identifier | constructs | isType
      · exact .inl identifier
      · exact .inr (.inl constructs)
      · rcases types with ⟨constructs, _⟩ | ⟨none, _⟩ | ⟨_, written⟩
        · exact .inr (.inl constructs)
        · rw [none] at many
          exact absurd many.symm (List.append_ne_nil_of_right_ne_nil others (List.cons_ne_nil type []))
        · have typed : Text.words declared.returnType = front := by
            rw [written]
            exact words_join_of_words split
          have last := List.mem_append_right front (List.mem_singleton_self declared.name)
          rw [Bool.not_eq_true, List.any_eq_false] at plain
          have clean := plain declared.name last
          simp only [Bool.or_eq_true, List.contains_iff_mem, not_or] at clean
          refine .inr (.inr ⟨type, ?_, isType, isWord.ne_nil, isWord.ink, clean.1, clean.2⟩)
          rw [typed, many, List.getLast?_concat]

/-- A function that is read from an accepted statement has one of the names that functions may have. -/
theorem FunctionDoc.DeclaredOn.wellNamed {line : Line} (on : declared.DeclaredOn line) :
    declared.WellNamed := by
  obtain ⟨statement, _, accepted, read⟩ := on
  obtain ⟨_, before, after, parameters, parsed⟩ := parsed_of_parseSignature? read
  rcases (isSignatureCode_iff.mp accepted).2 with constructs | ⟨_, _, _, shape⟩
  · exact .inr (.inl (parsed.constructorName constructs))
  · exact parsed.wellNamed_of_shape shape

end Accepted

/-! ### The whole source -/

/-- Every function and every method has an identifier or the name of a constructor or destructor for a name, or
stands behind the name of a type, where any word without points and equals signs is taken. -/
theorem extractModule_wellNamed (file : FilePath) (source : Text) :
    (∀ declared ∈ (extractModule file source).functions, declared.WellNamed) ∧
      ∀ aggregate ∈ (extractModule file source).aggregates, ∀ declared ∈ aggregate.methods,
        declared.WellNamed := by
  have traces := traced_moduleEntries (sourceLines source)
  refine ⟨?_, ?_⟩
  · intro declared member
    obtain ⟨_, line, _, on, _⟩ := traces _ (mem_of_mem_functions member)
    exact FunctionDoc.DeclaredOn.wellNamed on
  · intro aggregate member declared inside
    have traced : aggregate.Traced (sourceLines source) := traces _ (mem_of_mem_aggregates member)
    obtain ⟨_, line, _, on, _⟩ := traced.methods declared inside
    exact FunctionDoc.DeclaredOn.wellNamed on

/-- Behind the name of a type the name itself is not looked at. -/
theorem exists_name_no_identifier :
    ∃ declared ∈ (extractModule anonymousFile "Foo foo!bar(int x);".toList).functions,
      Text.isIdentifier declared.name = false ∧ declared.name ≠ "this".toList ∧
        declared.name ≠ "~this".toList := by
  decide +kernel

end DocSite
