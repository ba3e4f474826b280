/-
Signatures that are read back.

The signature of a function is put together from its return type, its name and its parameters, and reading it gives
these parts again. The parameters may be any nested texts: literals with parentheses and commas in them, default
values with calls, types with brackets. A group of parentheses directly behind the name belongs to a template, and
the parameters are then read from the group behind it.
-/
import DocSite.Proofs.Signature.ParameterList
import DocSite.Proofs.Source.Groups
import DocSite.Proofs.Text.Occurrences

namespace DocSite

/-! ### Functions -/

/-- A word of a return type: it is not blank and has neither quotes, slashes, backslashes nor an opening
parenthesis. -/
structure Text.IsTypeWord (word : Text) : Prop where
  filled : word ≠ []
  ink : ∀ character ∈ word, isBlank character = false
  plain : ∀ character ∈ word, isPlain character = true
  noOpener : '(' ∉ word

instance (word : Text) : Decidable word.IsTypeWord :=
  decidable_of_iff (word ≠ [] ∧ word.any isBlank = false ∧ word.all isPlain = true ∧ '(' ∉ word) <| by
    rw [List.any_eq_false, List.all_eq_true]
    simp only [Bool.not_eq_true]
    exact ⟨fun ⟨filled, ink, plain, noOpener⟩ => ⟨filled, ink, plain, noOpener⟩,
      fun isWord => ⟨isWord.filled, isWord.ink, isWord.plain, isWord.noOpener⟩⟩

/-- A parameter: a trimmed nested text without a comma outside its literals and brackets. -/
structure Text.IsParameter (text : Text) : Prop where
  filled : text ≠ []
  trimmed : Text.trim text = text
  nested : isNested (· == ',') text = true

instance (text : Text) : Decidable text.IsParameter :=
  decidable_of_iff (text ≠ [] ∧ Text.trim text = text ∧ isNested (· == ',') text = true)
    ⟨fun ⟨filled, trimmed, nested⟩ => ⟨filled, trimmed, nested⟩,
      fun parameter => ⟨parameter.filled, parameter.trimmed, parameter.nested⟩⟩

/-- A function whose signature can be read: the words of its return type stand in front of an identifier that does
not end in the keyword of a linkage, or it is a constructor or a destructor without a return type. -/
structure FunctionDoc.IsReadable (declared : FunctionDoc) (type : List Text) : Prop where
  words : ∀ word ∈ type, word.IsTypeWord
  returnType : declared.returnType = Text.join [' '] type
  name : (type ≠ [] ∧ Text.isIdentifier declared.name = true ∧ ¬linkageKeyword <:+ declared.name ∧
      declared.name ≠ "this".toList) ∨
    (type = [] ∧ isConstructorName declared.name = true)
  parameters : ∀ parameter ∈ declared.parameters, parameter.IsParameter
  isPrivate : declared.isPrivate = (type.head? == some privateKeyword)

namespace FunctionDoc

def lead (declared : FunctionDoc) : Text :=
  (if declared.returnType.isEmpty then [] else declared.returnType ++ [' ']) ++ declared.name

def list (declared : FunctionDoc) : Text :=
  '(' :: (Text.join [',', ' '] declared.parameters ++ [')'])

def template (declared : FunctionDoc) (group : Text) : Text :=
  declared.lead ++ '(' :: (group ++ ')' :: declared.list)

theorem signature_eq (declared : FunctionDoc) : declared.signature = declared.lead ++ declared.list := by
  unfold signature lead list
  simp only [List.append_assoc, List.cons_append]

end FunctionDoc

/-! ### In front of the parameters -/

namespace FunctionDoc.IsReadable

variable {declared : FunctionDoc} {type : List Text} (readable : declared.IsReadable type)

include readable

theorem nameWord : declared.name.IsTypeWord := by
  have identifiers {name : Text} (identifier : Text.isIdentifier name = true) : name.IsTypeWord := by
    have isWord := Text.isWord_of_isIdentifier identifier
    exact ⟨isWord.ne_nil, isWord.ink, fun character member => isPlain_of_isNameChar (isWord.names character member),
      fun opener => Bool.false_ne_true (isWord.names '(' opener)⟩
  rcases readable.name with ⟨_, identifier, _⟩ | ⟨_, constructs⟩
  · exact identifiers identifier
  · unfold isConstructorName at constructs
    rw [Bool.or_eq_true, beq_iff_eq, beq_iff_eq] at constructs
    rcases constructs with same | same
    · rw [same]
      exact identifiers rfl
    · have stem : Text.IsTypeWord "this".toList := identifiers rfl
      rw [same]
      exact ⟨List.cons_ne_nil _ _, List.forall_mem_cons.mpr ⟨rfl, stem.ink⟩,
        List.forall_mem_cons.mpr ⟨rfl, stem.plain⟩, by decide⟩

/-- The words in front of the parameter list. -/
theorem leadWords : ∀ word ∈ type ++ [declared.name], word.IsTypeWord := by
  intro word listed
  rcases List.mem_append.mp listed with inType | isName
  · exact readable.words word inType
  · rw [List.mem_singleton.mp isName]
    exact readable.nameWord

theorem lead_eq : declared.lead = Text.join [' '] (type ++ [declared.name]) := by
  unfold FunctionDoc.lead
  rw [readable.returnType]
  cases split : type with
  | nil => rfl
  | cons word others =>
      have first : word ≠ [] := (readable.words word (by rw [split]; exact List.mem_cons_self)).filled
      have filled : (Text.join [' '] (word :: others)).isEmpty = false := by
        rw [List.isEmpty_eq_false_iff]
        cases others with
        | nil => exact first
        | cons next more =>
            rw [Text.join_cons_cons]
            exact List.append_ne_nil_of_left_ne_nil first _
      rw [filled, Text.join_concat [' '] (List.cons_ne_nil word others), if_neg Bool.false_ne_true,
        List.append_assoc]

theorem words_lead : Text.words declared.lead = type ++ [declared.name] := by
  rw [readable.lead_eq]
  exact Text.words_join (fun word listed => (readable.leadWords word listed).filled)
    fun word listed => (readable.leadWords word listed).ink

theorem mem_lead {character : Char} (member : character ∈ declared.lead) :
    character = ' ' ∨ ∃ word ∈ type ++ [declared.name], character ∈ word := by
  rw [readable.lead_eq] at member
  have spaces {words : List Text} (inside : character ∈ Text.join [' '] words) :
      character = ' ' ∨ ∃ word ∈ words, character ∈ word := by
    induction words with
    | nil => cases inside
    | cons word others ih =>
        cases others with
        | nil => exact .inr ⟨word, List.mem_cons_self, inside⟩
        | cons next more =>
            rw [Text.join_cons_cons] at inside
            rcases List.mem_append.mp inside with here | further
            · exact .inr ⟨word, List.mem_cons_self, here⟩
            · rcases List.mem_append.mp further with space | later
              · exact .inl (List.mem_singleton.mp space)
              · rcases ih later with space | ⟨other, listed, there⟩
                · exact .inl space
                · exact .inr ⟨other, List.mem_cons_of_mem word listed, there⟩
  exact spaces member

theorem noOpener_lead : '(' ∉ declared.lead := by
  intro member
  rcases readable.mem_lead member with space | ⟨word, listed, inside⟩
  · cases space
  · exact (readable.leadWords word listed).noOpener inside

theorem plain_lead : ∀ character ∈ declared.lead, isPlain character = true := by
  intro character member
  rcases readable.mem_lead member with space | ⟨word, listed, inside⟩
  · rw [space]
    rfl
  · exact (readable.leadWords word listed).plain character inside

/-- The name does not open the argument of a linkage. -/
theorem not_endsLinked_lead : ¬declared.lead.EndsLinked := by
  intro linked
  obtain ⟨before, _, split⟩ := Text.EndsLinked.exists_cut linked readable.nameWord.filled readable.nameWord.ink
  have ends : linkageKeyword <:+ declared.lead := ⟨before, split.symm⟩
  rw [readable.lead_eq] at ends
  rcases readable.name with ⟨typed, _, unlinked, _⟩ | ⟨none, constructs⟩
  · rw [Text.join_concat [' '] typed, List.singleton_append, Text.suffix_append_blank isWord_linkageKeyword.ink rfl] at ends
    exact unlinked ends
  · unfold isConstructorName at constructs
    rw [Bool.or_eq_true, beq_iff_eq, beq_iff_eq] at constructs
    have others : ¬linkageKeyword <:+ "this".toList ∧ ¬linkageKeyword <:+ "~this".toList := by decide
    rw [none, List.nil_append, Text.join] at ends
    rcases constructs with same | same
    · rw [same] at ends
      exact others.1 ends
    · rw [same] at ends
      exact others.2 ends

theorem cutAtParameters?_lead (rest : Text) :
    cutAtParameters? (declared.lead ++ '(' :: rest) = some (declared.lead, rest) :=
  cutAtParameters?_unlinked readable.noOpener_lead readable.not_endsLinked_lead

theorem named : nameAndType? (Text.words declared.lead) = some (declared.name, declared.returnType) := by
  rw [readable.words_lead]
  unfold nameAndType?
  rw [List.getLast?_concat, List.dropLast_concat]
  dsimp only
  rcases readable.name with ⟨typed, identifier, _, noConstructor⟩ | ⟨none, constructs⟩
  · have other : isConstructorName declared.name = false := by
      unfold isConstructorName
      rw [beq_eq_false_iff_ne.mpr noConstructor, Bool.false_or, beq_eq_false_iff_ne]
      intro same
      rw [same] at identifier
      cases identifier
    rw [other, if_neg Bool.false_ne_true, if_neg (by rw [List.isEmpty_iff]; exact typed), readable.returnType]
  · rw [constructs, if_pos rfl, readable.returnType, none]
    rfl

/-! ### The parameters -/

theorem nested_inside : isNested unbarred (Text.join [',', ' '] declared.parameters) = true :=
  isNested_join fun parameter listed => (readable.parameters parameter listed).nested

theorem parameters_inside :
    (splitTopLevelAt ',' (Text.join [',', ' '] declared.parameters)).filter (fun piece => !piece.isEmpty) =
      declared.parameters := by
  have trimmed : declared.parameters.map Text.trim = declared.parameters :=
    (List.map_congr_left fun parameter listed => (readable.parameters parameter listed).trimmed).trans
      (List.map_id _)
  have filled : ∀ parameter ∈ declared.parameters, (!parameter.isEmpty) = true := by
    intro parameter listed
    rw [List.isEmpty_eq_false_iff.mpr (readable.parameters parameter listed).filled]
    rfl
  by_cases none : declared.parameters = []
  · rw [none]
    rfl
  · rw [splitTopLevelAt_join (fun parameter listed => (readable.parameters parameter listed).nested) rfl none,
      trimmed]
    exact List.filter_eq_self.mpr filled

/-- Of one group of parentheses the text inside is read. -/
theorem parameterText?_list :
    parameterText? (Text.join [',', ' '] declared.parameters ++ [')']) =
      some (Text.join [',', ' '] declared.parameters) := by
  unfold parameterText?
  rw [cutParenthesis?_nested readable.nested_inside]
  rfl

/-- Of two groups in a row the second one is read. -/
theorem parameterText?_template {group : Text} (nested : isNested unbarred group = true) :
    parameterText? (group ++ ')' :: declared.list) = some (Text.join [',', ' '] declared.parameters) := by
  have blank : Text.trimLeft declared.list = declared.list := Text.trimLeft_eq_self (Text.startsInk_cons rfl)
  have second : cutParenthesis? (Text.join [',', ' '] declared.parameters ++ [')']) =
      some (Text.join [',', ' '] declared.parameters, []) := cutParenthesis?_nested readable.nested_inside []
  unfold parameterText?
  rw [cutParenthesis?_nested nested]
  dsimp only
  rw [blank, FunctionDoc.list]
  simp only [second]

/-! ### The whole signature -/

theorem exists_first : ∃ first more, declared.lead = first ++ more ∧ first.IsTypeWord := by
  have inLead := readable.leadWords
  rw [readable.lead_eq]
  cases split : type ++ [declared.name] with
  | nil => exact absurd split (List.append_ne_nil_of_right_ne_nil type (List.cons_ne_nil _ []))
  | cons first others =>
      rw [split] at inLead
      refine ⟨first, ?_⟩
      cases others with
      | nil => exact ⟨[], (List.append_nil first).symm, inLead first List.mem_cons_self⟩
      | cons next more => exact ⟨_, Text.join_cons_cons [' '] first next more, inLead first List.mem_cons_self⟩

theorem startsInk_lead (rest : Text) : Text.StartsInk (declared.lead ++ rest) := by
  obtain ⟨first, more, split, isWord⟩ := readable.exists_first
  rw [split]
  cases first with
  | nil => exact absurd rfl isWord.filled
  | cons character others => exact Text.startsInk_cons (isWord.ink character List.mem_cons_self)

/-- The first word of a signature is that of the return type. The name of a constructor is no modifier. -/
theorem isPrivate_lead (rest : Text) :
    isPrivateDeclaration (declared.lead ++ '(' :: rest) = declared.isPrivate := by
  rw [readable.isPrivate]
  unfold isPrivateDeclaration Text.firstWord?
  rcases readable.name with ⟨typed, _⟩ | ⟨none, constructs⟩
  · rw [readable.lead_eq, Text.join_concat [' '] typed]
    cases split : type with
    | nil => exact absurd split typed
    | cons word others =>
        have isWord := readable.words word (by rw [split]; exact List.mem_cons_self)
        cases others with
        | nil =>
            rw [Text.join, List.append_assoc, List.append_assoc, List.singleton_append,
              Text.words_append_blank isWord.filled isWord.ink rfl]
            rfl
        | cons next more =>
            rw [Text.join_cons_cons, List.append_assoc, List.append_assoc, List.singleton_append, List.cons_append,
              Text.words_append_blank isWord.filled isWord.ink rfl]
            rfl
  · obtain ⟨first, others, split, starts⟩ := (Text.words_pieces (declared.lead ++ '(' :: rest)).2
      (readable.startsInk_lead _) (List.append_ne_nil_of_right_ne_nil _ (List.cons_ne_nil _ _))
    rw [split, none, List.head?_cons, List.head?_nil]
    have other : first ≠ privateKeyword := by
      intro same
      rw [same, readable.lead_eq, none, List.nil_append, Text.join] at starts
      unfold isConstructorName at constructs
      rw [Bool.or_eq_true, beq_iff_eq, beq_iff_eq] at constructs
      obtain ⟨behind, whole⟩ := starts
      rcases constructs with constructor | destructor
      · rw [constructor] at whole
        exact absurd (List.cons.inj whole).1 (by decide)
      · rw [destructor] at whole
        exact absurd (List.cons.inj whole).1 (by decide)
    rw [beq_eq_false_iff_ne.mpr fun same => other (Option.some.inj same)]
    rfl

/-- Parentheses with nested text behind the name leave the line all code. -/
theorem codeOf_trim_lead {inside : Text} (nested : isNested unbarred ('(' :: (inside ++ [')'])) = true) :
    codeOf (Text.trim (declared.lead ++ '(' :: (inside ++ [')']))) =
      declared.lead ++ '(' :: (inside ++ [')']) := by
  apply codeOf_trim_eq_self
  · have front := ofText_plain readable.plain_lead
    have behind := (endsInCode_nested nested).comment
    unfold scanCode at behind ⊢
    rw [CodeScan.ofText_append (by rw [front]) (by simp) (by simp), front]
    exact behind
  · have whole : declared.lead ++ '(' :: (inside ++ [')']) = (declared.lead ++ '(' :: inside) ++ [')'] := by
      simp only [List.append_assoc, List.cons_append]
    rw [whole]
    apply Text.trim_concat _ rfl
    rw [List.append_assoc]
    exact readable.startsInk_lead _

/-- A function is read from the groups behind its name if they are nested and end with its parameters. -/
theorem parseFunction?_lead {inside : Text} (nested : isNested unbarred ('(' :: (inside ++ [')'])) = true)
    (read : parameterText? (inside ++ [')']) = some (Text.join [',', ' '] declared.parameters)) :
    parseFunction? (declared.lead ++ '(' :: (inside ++ [')'])) declared.comments declared.line =
      some declared := by
  unfold parseFunction? parseSignature?
  rw [readable.codeOf_trim_lead nested, readable.cutAtParameters?_lead]
  dsimp only
  rw [read]
  dsimp only
  rw [readable.named, Option.map_some, readable.parameters_inside, readable.isPrivate_lead]

end FunctionDoc.IsReadable

/-- Reading the signature of a function gives the function, and so does reading it with the parameters of a
template between the name and the parameters. -/
theorem signature_read_back {declared : FunctionDoc} {type : List Text}
    (readable : declared.IsReadable type) :
    parseFunction? declared.signature declared.comments declared.line = some declared ∧
      ∀ group, isNested unbarred group = true →
        parseFunction? (declared.template group) declared.comments declared.line = some declared := by
  have list : isNested unbarred declared.list = true := isNested_group rfl rfl readable.nested_inside rfl
  refine ⟨?_, ?_⟩
  · rw [declared.signature_eq]
    exact readable.parseFunction?_lead list readable.parameterText?_list
  · intro group nested
    have groups : isNested unbarred ('(' :: (group ++ ')' :: declared.list)) = true :=
      isNested_group rfl rfl nested list
    have ends : group ++ ')' :: declared.list =
        (group ++ ')' :: '(' :: Text.join [',', ' '] declared.parameters) ++ [')'] := by
      unfold FunctionDoc.list
      simp only [List.append_assoc, List.cons_append]
    have read := readable.parameterText?_template nested
    unfold FunctionDoc.template
    rw [ends] at groups read ⊢
    exact readable.parseFunction?_lead groups read

/-- Parameters with literals, calls and brackets are read back, with a template and without one. -/
theorem signature_read_back_literals :
    let declared : FunctionDoc :=
      { name := "replace".toList
        returnType := "private const string[] ref".toList
        parameters := ["string[][] rows = [[\"a, (b\"], f(1, g(')'))]".toList, "char c = '\"'".toList]
        comments := ["Text.".toList]
        line := 7
        isPrivate := true }
    let group := "T : U[], alias p = (\")\")".toList
    parseFunction? declared.signature ["Text.".toList] 7 = some declared ∧
      parseFunction? (declared.template group) ["Text.".toList] 7 = some declared := by
  intro declared group
  have readable : declared.IsReadable (["private", "const", "string[]", "ref"].map String.toList) :=
    ⟨by decide +kernel, by decide +kernel, by decide +kernel, by decide +kernel, by decide +kernel⟩
  obtain ⟨plain, behind⟩ := signature_read_back readable
  exact ⟨plain, behind group (by decide +kernel)⟩

end DocSite
