/-
The tags of pages.

Pages are made of a few elements with a few attributes. Between its quotation marks the value of an attribute
has no character that bounds tags or values, as no escaped text has.
-/
import DocSite.Page.Escape

namespace DocSite

/-! ### Escaped texts -/

def markupChars : List Char := ['&', '<', '>', '"', '\x27']

theorem escapeChar_eq_self (character : Char) (plain : character ∉ markupChars) :
    escapeChar character = [character] := by
  simp only [markupChars, List.mem_cons, List.not_mem_nil, or_false, not_or] at plain
  obtain ⟨ampersand, less, greater, double, single⟩ := plain
  rw [escapeChar, if_neg ampersand, if_neg less, if_neg greater, if_neg double, if_neg single]

theorem escape_append (front rest : Text) : escape (front ++ rest) = escape front ++ escape rest :=
  List.flatMap_append

def tagMarks : List Char := ['<', '>', '"', '\x27']

/-- A reference shows none of these characters. -/
theorem not_mem_escapeChar (character mark : Char) (special : mark ∈ tagMarks) :
    mark ∉ escapeChar character := by
  unfold tagMarks at special
  by_cases referred : character ∈ markupChars
  · simp only [markupChars, List.mem_cons, List.not_mem_nil, or_false] at referred special
    rcases referred with rfl | rfl | rfl | rfl | rfl <;>
      rcases special with rfl | rfl | rfl | rfl <;> decide
  · rw [escapeChar_eq_self character referred, List.mem_singleton]
    rintro rfl
    exact referred (List.mem_cons_of_mem _ special)

theorem not_mem_escape (text : Text) (mark : Char) (special : mark ∈ tagMarks) : mark ∉ escape text := by
  intro found
  obtain ⟨character, -, found⟩ := List.mem_flatMap.mp found
  exact not_mem_escapeChar character mark special found

def IsPlain (text : Text) : Prop := ∀ mark ∈ tagMarks, mark ∉ text

theorem isPlain_iff {text : Text} :
    (text.all fun character => !tagMarks.contains character) = true ↔ IsPlain text := by
  simp only [List.all_eq_true, Bool.not_eq_true', List.contains_eq_mem, decide_eq_false_iff_not]
  exact ⟨fun plain mark special found => plain mark found special,
    fun plain character found special => plain character special found⟩

instance (text : Text) : Decidable (IsPlain text) := decidable_of_iff _ isPlain_iff

theorem isPlain_escape (text : Text) : IsPlain (escape text) :=
  fun mark special => not_mem_escape text mark special

theorem IsPlain.append {first second : Text} (plain : IsPlain first) (plainToo : IsPlain second) :
    IsPlain (first ++ second) := by
  intro mark special found
  exact (List.mem_append.mp found).elim (plain mark special) (plainToo mark special)

/-! ### Tags -/

inductive Tag where
  | anchor
  | code
  | division
  | heading2
  | heading3
  | heading4
  | item
  | list
  | paragraph
  | preformatted
  | section
  | span
  deriving DecidableEq, Repr

def Tag.name : Tag → Text
  | .anchor => "a".toList
  | .code => "code".toList
  | .division => "div".toList
  | .heading2 => "h2".toList
  | .heading3 => "h3".toList
  | .heading4 => "h4".toList
  | .item => "li".toList
  | .list => "ul".toList
  | .paragraph => "p".toList
  | .preformatted => "pre".toList
  | .section => "section".toList
  | .span => "span".toList

inductive AttributeName where
  | className
  | href
  | id
  deriving DecidableEq, Repr

def AttributeName.text : AttributeName → Text
  | .className => "class".toList
  | .href => "href".toList
  | .id => "id".toList

def writeAttributes (attributes : List (AttributeName × Text)) : Text :=
  attributes.flatMap fun assigned => ' ' :: assigned.1.text ++ '=' :: '"' :: assigned.2 ++ ['"']

def startTag (tag : Tag) (attributes : List (AttributeName × Text)) : Text :=
  '<' :: tag.name ++ writeAttributes attributes ++ ['>']

def endTag (tag : Tag) : Text := '<' :: '/' :: tag.name ++ ['>']

end DocSite
