/-
Headers of containers.

A header is a list of attributes followed by one of the keywords `class`, `struct`, `interface` and
`enum`. An `enum` with an equals sign and no brace declares a constant and is no header.
-/
import DocSite.Doc.Basic
import DocSite.Signature.Keywords
import DocSite.Source.Code

namespace DocSite

inductive ContainerKind where
  | aggregate (kind : AggregateKind)
  | enum
  deriving DecidableEq, Repr

def ContainerKind.keyword : ContainerKind → Text
  | .aggregate kind => kind.keyword
  | .enum => "enum".toList

/-- A matched header: its kind, and its text behind the keyword up to the end of the line. -/
structure ContainerHeader where
  kind : ContainerKind
  rest : Text
  deriving DecidableEq, Repr

/-! ### Attributes -/

def plainAttributes : List Text :=
  accessModifiers ++ ["final", "abstract", "static", "shared", "immutable", "const",
    "synchronized", "deprecated"].map String.toList

/-- The text behind an argument in parentheses, which ends at the first closer. -/
def afterArgument? : Text → Option Text
  | '(' :: rest => (Text.cutAt? ')' rest).map (·.2)
  | _ => none

def afterAttribute? (text : Text) : Option Text :=
  match text with
  | '@' :: rest =>
      let behind := rest.dropWhile isWordChar
      if behind.length = rest.length then none
      else if behind.head? = some '(' then afterArgument? behind
      else some behind
  | _ =>
      match Text.afterPrefix? linkageKeyword text with
      | some rest => afterArgument? (Text.trimLeft rest)
      | none => plainAttributes.findSome? fun word =>
          match Text.afterPrefix? word text with
          | some rest => if (rest.head?.map isBlank).getD false then some rest else none
          | none => none

def afterSpacedAttribute? (text : Text) : Option Text :=
  match afterAttribute? text with
  | some rest => if (rest.head?.map isBlank).getD false then some (Text.trimLeft rest) else none
  | none => none

/-! ### Progress -/

/-- The text behind an attribute is no longer than the text. -/
theorem afterAttribute?_length_le {text rest : Text} (found : afterAttribute? text = some rest) :
    rest.length ≤ text.length := by
  have argumentShorter : ∀ {from_ behind : Text}, afterArgument? from_ = some behind →
      behind.length ≤ from_.length := by
    intro from_ behind inner
    unfold afterArgument? at inner
    split at inner
    · obtain ⟨parts, cut, equal⟩ := Option.map_eq_some_iff.mp inner
      have lengths := Text.length_of_cutAt? cut
      cases equal
      simp only [List.length_cons]
      omega
    · cases inner
  unfold afterAttribute? at found
  split at found
  · rename_i tail
    have dropped : (tail.dropWhile isWordChar).length ≤ tail.length :=
      (List.dropWhile_sublist isWordChar).length_le
    dsimp only at found
    simp only [List.length_cons]
    split at found
    · cases found
    · split at found
      · have shorter := argumentShorter found
        omega
      · cases found
        omega
  · split at found
    · rename_i tail linkage
      have shorter := argumentShorter found
      have trimmed : (Text.trimLeft tail).length ≤ tail.length :=
        (List.dropWhile_sublist isBlank).length_le
      have lengths := Text.length_of_afterPrefix? linkage
      omega
    · obtain ⟨_, _, inner⟩ := List.exists_of_findSome?_eq_some found
      split at inner
      · rename_i tail matched
        have lengths := Text.length_of_afterPrefix? matched
        split at inner
        · cases inner
          omega
        · cases inner
      · cases inner

/-- An attribute and the blanks behind it are at least one character. -/
theorem afterSpacedAttribute?_length_lt {text rest : Text}
    (found : afterSpacedAttribute? text = some rest) : rest.length < text.length := by
  unfold afterSpacedAttribute? at found
  split at found
  · rename_i behind matched
    have shorter := afterAttribute?_length_le matched
    split at found
    · rename_i blankFirst
      cases found
      cases behind with
      | nil => simp at blankFirst
      | cons character tail =>
          have isBlankCharacter : isBlank character = true := by simpa using blankFirst
          have dropped : (tail.dropWhile isBlank).length ≤ tail.length :=
            (List.dropWhile_sublist isBlank).length_le
          simp only [Text.trimLeft, Text.trimLeftBy, List.dropWhile_cons, isBlankCharacter,
            if_true]
          simp only [List.length_cons] at shorter
          omega
    · cases found
  · cases found

/-! ### Matching -/

/-- The kinds of containers in the order in which their keywords are tried. -/
def containerKinds : List ContainerKind :=
  [.aggregate .classType, .aggregate .structType, .aggregate .interfaceType, .enum]

def bareHeader? (text : Text) : Option ContainerHeader :=
  containerKinds.findSome? fun kind =>
    match Text.afterPrefix? kind.keyword text with
    | some rest =>
        if (rest.head?.map isWordChar).getD false then none
        else some ⟨kind, rest.takeWhile (· ≠ '\n')⟩
    | none => none

/-- The header at the start of code, behind any number of attributes. -/
def headerOfCode? (code : Text) : Option ContainerHeader :=
  match _ : afterSpacedAttribute? code with
  | some rest => headerOfCode? rest
  | none => bareHeader? code
termination_by code.length
decreasing_by exact afterSpacedAttribute?_length_lt (by assumption)

def matchHeader? (line : Text) : Option ContainerHeader :=
  let code := codeOf (Text.trim line)
  match headerOfCode? code with
  | none => none
  | some header =>
      if header.kind = .enum ∧ !code.contains '\x7b' ∧ code.contains '=' then none
      else some header

/-- The name in a header: the first word behind the keyword, cut where an inline body, a base list, a
template parameter list or the end of the declaration begins. Anonymous containers have an empty
name. -/
def ContainerHeader.name (header : ContainerHeader) : Text :=
  match Text.firstWord? header.rest with
  | none => []
  | some word => word.takeWhile fun character =>
      !(character == '\x7b' || character == ':' || character == '(' || character == ';')

def ContainerHeader.text (header : ContainerHeader) : Text :=
  header.kind.keyword ++ header.rest

end DocSite
