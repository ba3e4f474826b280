/-
Attributes read back from written markup.

The reader knows tags from content. Inside a tag it knows the names of attributes, in letters of either
case, and their values, between quotation marks of either kind or bare. A value is read as it is written,
with its references. In a tag of pages the reader finds the attributes of the tag and in an escaped text
nothing, whatever the text holds: that is what escaping is for.
-/
import DocSite.Proofs.Page.Tags

namespace DocSite

inductive MarkupState where
  | content
  | opening
  | tagName
  | gap
  | attributeName (name : Text)
  | behindName (name : Text)
  | behindEquals (name : Text)
  | quoted (name : Text) (mark : Char) (value : Text)
  | bare (name value : Text)
  deriving DecidableEq, Repr

def isTagBlank (character : Char) : Bool :=
  [' ', '\t', '\n', '\r', '\x0c'].contains character

namespace MarkupState

def step (state : MarkupState) (character : Char) : MarkupState × List (Text × Text) :=
  match state with
  | .content => (if character = '<' then .opening else .content, [])
  | .opening =>
      (if character.isAlpha ∨ character = '/' ∨ character = '!' then .tagName else .content, [])
  | .tagName =>
      (if character = '>' then .content
        else if isTagBlank character ∨ character = '/' then .gap else .tagName, [])
  | .gap =>
      (if character = '>' then .content
        else if isTagBlank character ∨ character = '/' then .gap
        else .attributeName [character.toLower], [])
  | .attributeName name =>
      if character = '>' then (.content, [(name, [])])
      else if character = '/' then (.gap, [(name, [])])
      else if character = '=' then (.behindEquals name, [])
      else if isTagBlank character then (.behindName name, [])
      else (.attributeName (name ++ [character.toLower]), [])
  | .behindName name =>
      if character = '>' then (.content, [(name, [])])
      else if character = '/' then (.gap, [(name, [])])
      else if character = '=' then (.behindEquals name, [])
      else if isTagBlank character then (.behindName name, [])
      else (.attributeName [character.toLower], [(name, [])])
  | .behindEquals name =>
      if character = '"' ∨ character = '\x27' then (.quoted name character [], [])
      else if character = '>' then (.content, [(name, [])])
      else if isTagBlank character then (.behindEquals name, [])
      else (.bare name [character], [])
  | .quoted name mark value =>
      if character = mark then (.gap, [(name, value)])
      else (.quoted name mark (value ++ [character]), [])
  | .bare name value =>
      if character = '>' then (.content, [(name, value)])
      else if isTagBlank character then (.gap, [(name, value)])
      else (.bare name (value ++ [character]), [])

def behind (state : MarkupState) (text : Text) : MarkupState :=
  text.foldl (fun state character => (state.step character).1) state

def attributes (state : MarkupState) : Text → List (Text × Text)
  | [] => []
  | character :: rest => (state.step character).2 ++ (state.step character).1.attributes rest

theorem behind_cons (state : MarkupState) (character : Char) (rest : Text) :
    state.behind (character :: rest) = (state.step character).1.behind rest := rfl

theorem behind_append (state : MarkupState) (front rest : Text) :
    state.behind (front ++ rest) = (state.behind front).behind rest :=
  List.foldl_append

theorem attributes_append (state : MarkupState) (front rest : Text) :
    state.attributes (front ++ rest) =
      state.attributes front ++ (state.behind front).attributes rest := by
  induction front generalizing state with
  | nil => rfl
  | cons character front ih =>
      rw [List.cons_append, attributes, attributes, ih, behind_cons, List.append_assoc]

/-- A quoted value ends with its mark. -/
theorem quoted_read (name value text : Text) (mark : Char) (unmarked : mark ∉ text) :
    (quoted name mark value).behind (text ++ [mark]) = .gap ∧
      (quoted name mark value).attributes (text ++ [mark]) = [(name, value ++ text)] := by
  induction text generalizing value with
  | nil => simp [behind, attributes, step]
  | cons character text ih =>
      have other : character ≠ mark := fun same => unmarked (same ▸ List.mem_cons_self)
      have step_eq : (quoted name mark value).step character =
          (.quoted name mark (value ++ [character]), []) := if_neg other
      have rest := ih (value ++ [character]) fun found => unmarked (List.mem_cons_of_mem _ found)
      rw [List.cons_append, behind_cons, attributes, step_eq]
      exact ⟨rest.1, by rw [List.nil_append, rest.2, List.append_assoc, List.singleton_append]⟩

end MarkupState

def idValues (page : Text) : List Text :=
  ((MarkupState.content.attributes page).filter fun written =>
    written.1 = AttributeName.id.text).map (·.2)

theorem idValues_append (front rest : Text)
    (closed : MarkupState.content.behind front = .content) :
    idValues (front ++ rest) = idValues front ++ idValues rest := by
  unfold idValues
  rw [MarkupState.attributes_append, closed, List.filter_append, List.map_append]

/-! ### References -/

def unescape : Text → Text
  | '&' :: 'a' :: 'm' :: 'p' :: ';' :: rest => '&' :: unescape rest
  | '&' :: 'l' :: 't' :: ';' :: rest => '<' :: unescape rest
  | '&' :: 'g' :: 't' :: ';' :: rest => '>' :: unescape rest
  | '&' :: 'q' :: 'u' :: 'o' :: 't' :: ';' :: rest => '"' :: unescape rest
  | '&' :: '#' :: 'x' :: '2' :: '7' :: ';' :: rest => '\x27' :: unescape rest
  | character :: rest => character :: unescape rest
  | [] => []

theorem unescape_cons (character : Char) (rest : Text) (plain : character ≠ '&') :
    unescape (character :: rest) = character :: unescape rest := by
  rw [unescape] <;> (intros; contradiction)

theorem unescape_escapeChar (character : Char) (rest : Text) :
    unescape (escapeChar character ++ rest) = character :: unescape rest := by
  by_cases special : character ∈ markupChars
  · simp only [markupChars, List.mem_cons, List.not_mem_nil, or_false] at special
    rcases special with rfl | rfl | rfl | rfl | rfl <;> rfl
  · rw [escapeChar_eq_self character special]
    exact unescape_cons character rest fun same => special (same ▸ by decide)

@[simp] theorem unescape_escape (text : Text) : unescape (escape text) = text := by
  induction text with
  | nil => rfl
  | cons character text ih =>
      rw [escape, List.flatMap_cons, unescape_escapeChar]
      exact congrArg (character :: ·) ih

/-! ### Markup that begins and ends in content -/

/-- A text that a reader enters and leaves in content, with the identifiers it finds in between. -/
structure HasIds (text : Text) (ids : List Text) : Prop where
  values : idValues text = ids
  closed : MarkupState.content.behind text = .content

namespace HasIds

variable {front rest : Text} {ids others : List Text}

theorem append (first : HasIds front ids) (second : HasIds rest others) :
    HasIds (front ++ rest) (ids ++ others) where
  values := by rw [idValues_append front rest first.closed, first.values, second.values]
  closed := by rw [MarkupState.behind_append, first.closed, second.closed]

theorem nil : HasIds [] [] := ⟨rfl, rfl⟩

/-- Text without tags. -/
theorem of_plain (text : Text) (plain : '<' ∉ text) : HasIds text [] := by
  induction text with
  | nil => exact nil
  | cons character text ih =>
      have other : character ≠ '<' := fun same => plain (same ▸ List.mem_cons_self)
      have stays : MarkupState.content.step character = (.content, []) := by
        simp only [MarkupState.step, if_neg other]
      have first : HasIds [character] [] := by
        constructor
        · simp only [idValues, MarkupState.attributes, stays]
          rfl
        · rw [MarkupState.behind_cons, stays]
          rfl
      exact first.append (ih fun found => plain (List.mem_cons_of_mem _ found))

end HasIds

/-! ### Tags -/

def idsOf (attributes : List (AttributeName × Text)) : List Text :=
  (attributes.filter fun assigned => assigned.1 = .id).map (·.2)

def IsBetween (state : MarkupState) : Prop :=
  state = .tagName ∨ state = .gap

theorem behind_tagName (tag : Tag) :
    MarkupState.content.behind ('<' :: tag.name) = .tagName ∧
      MarkupState.content.attributes ('<' :: tag.name) = [] := by
  cases tag <;> exact ⟨by decide, by decide⟩

theorem read_attributeName (name : AttributeName) (state : MarkupState) (between : IsBetween state) :
    state.behind (' ' :: name.text ++ ['=', '"']) = .quoted name.text '"' [] ∧
      state.attributes (' ' :: name.text ++ ['=', '"']) = [] := by
  rcases between with rfl | rfl <;> cases name <;> exact ⟨by decide, by decide⟩

/-- An attribute is read with its value as it is written. -/
theorem read_attribute (name : AttributeName) {value : Text} (plain : IsPlain value) (state : MarkupState)
    (between : IsBetween state) :
    state.behind (' ' :: name.text ++ '=' :: '"' :: value ++ ['"']) = .gap ∧
      state.attributes (' ' :: name.text ++ '=' :: '"' :: value ++ ['"']) = [(name.text, value)] := by
  have split : ' ' :: name.text ++ '=' :: '"' :: value ++ ['"'] =
      (' ' :: name.text ++ ['=', '"']) ++ (value ++ ['"']) := by simp
  obtain ⟨named, silent⟩ := read_attributeName name state between
  obtain ⟨closed, read⟩ := MarkupState.quoted_read name.text [] value '"' (plain '"' (by decide))
  rw [split, MarkupState.behind_append, MarkupState.attributes_append, named, silent]
  exact ⟨closed, read⟩

theorem read_attributes {attributes : List (AttributeName × Text)}
    (plain : ∀ assigned ∈ attributes, IsPlain assigned.2) (state : MarkupState) (between : IsBetween state) :
    IsBetween (state.behind (writeAttributes attributes)) ∧
      state.attributes (writeAttributes attributes) =
        attributes.map fun assigned => (assigned.1.text, assigned.2) := by
  induction attributes generalizing state with
  | nil => exact ⟨between, rfl⟩
  | cons assigned attributes ih =>
      obtain ⟨own, others⟩ := List.forall_mem_cons.mp plain
      obtain ⟨closed, read⟩ := read_attribute assigned.1 own state between
      obtain ⟨stays, rest⟩ := ih others .gap (.inr rfl)
      unfold writeAttributes at stays rest ⊢
      rw [List.flatMap_cons, MarkupState.behind_append, MarkupState.attributes_append, closed, read,
        rest]
      exact ⟨stays, rfl⟩

theorem text_eq_id (name : AttributeName) : (name.text = AttributeName.id.text) ↔ name = .id := by
  cases name <;> decide

/-- A tag, from its bracket to its bracket, with the identifiers among its attributes. -/
theorem hasIds_startTag (tag : Tag) {attributes : List (AttributeName × Text)}
    (plain : ∀ assigned ∈ attributes, IsPlain assigned.2) :
    HasIds (startTag tag attributes) (idsOf attributes) := by
  obtain ⟨named, silent⟩ := behind_tagName tag
  obtain ⟨between, read⟩ := read_attributes plain .tagName (.inl rfl)
  have leaves : ∀ state, IsBetween state → state.behind ['>'] = .content ∧
      state.attributes ['>'] = [] := by
    rintro state (rfl | rfl) <;> exact ⟨by decide, by decide⟩
  obtain ⟨closed, quiet⟩ := leaves _ between
  unfold startTag
  constructor
  · unfold idValues idsOf
    rw [MarkupState.attributes_append, MarkupState.attributes_append, MarkupState.behind_append,
      named, silent, read, quiet, List.nil_append, List.append_nil, List.filter_map, List.map_map]
    simp only [Function.comp_def, text_eq_id]
  · rw [MarkupState.behind_append, MarkupState.behind_append, named, closed]

theorem hasIds_endTag (tag : Tag) : HasIds (endTag tag) [] := by
  cases tag <;> exact ⟨by decide, by decide⟩

end DocSite
