/-
The nesting of tags in written markup.

Markup is read from the left with the elements that are open. A character may stand for itself, a start
tag opens an element, and an end tag closes the element opened last. No angle bracket stands for itself,
so each of them belongs to a tag of pages, and no value of an attribute has a quotation mark or an angle
bracket in it. A piece of markup that leaves elements open or closes elements opened before it is told by the
open elements in front of it and behind it, so pieces can be put together.
-/
import DocSite.Proofs.Page.Attributes

namespace DocSite

/-- Markup that is entered with some elements open, the one opened last in front, and left with all of
them closed. -/
inductive Closes : List Tag → Text → Prop where
  | done : Closes [] []
  | character (character : Char) (ownsNoTag : character ≠ '<' ∧ character ≠ '>') {opened : List Tag}
      {rest : Text} : Closes opened rest → Closes opened (character :: rest)
  | start (tag : Tag) (attributes : List (AttributeName × Text))
      (plain : ∀ assigned ∈ attributes, IsPlain assigned.2) {opened : List Tag} {rest : Text} :
      Closes (tag :: opened) rest → Closes opened (startTag tag attributes ++ rest)
  | stop (tag : Tag) {opened : List Tag} {rest : Text} :
      Closes opened rest → Closes (tag :: opened) (endTag tag ++ rest)

/-- Markup that closes the elements that it opens, and no others. -/
def IsFragment (text : Text) : Prop := Closes [] text

/-! ### Angle brackets -/

theorem less_not_mem_name (tag : Tag) : '<' ∉ tag.name := by
  cases tag <;> decide

theorem less_not_mem_attribute (assigned : AttributeName × Text) (plain : IsPlain assigned.2) :
    '<' ∉ ' ' :: assigned.1.text ++ '=' :: '"' :: assigned.2 ++ ['"'] := by
  have value : '<' ∉ assigned.2 := plain '<' (by decide)
  have name : '<' ∉ assigned.1.text := by
    cases assigned.1 <;> decide
  simp [name, value]

/-- A tag has one opening bracket, in front. -/
theorem exists_startTag_eq (tag : Tag) (attributes : List (AttributeName × Text))
    (plain : ∀ assigned ∈ attributes, IsPlain assigned.2) :
    ∃ inner, startTag tag attributes = '<' :: inner ∧ '<' ∉ inner := by
  have written : '<' ∉ attributes.flatMap fun assigned =>
      ' ' :: assigned.1.text ++ '=' :: '"' :: assigned.2 ++ ['"'] := by
    intro found
    obtain ⟨assigned, member, found⟩ := List.mem_flatMap.mp found
    exact less_not_mem_attribute assigned (plain assigned member) found
  refine ⟨_, rfl, ?_⟩
  simp only [List.append_eq, List.mem_append, not_or]
  exact ⟨⟨less_not_mem_name tag, written⟩, by decide⟩

theorem exists_endTag_eq (tag : Tag) : ∃ inner, endTag tag = '<' :: inner ∧ '<' ∉ inner := by
  refine ⟨_, rfl, ?_⟩
  simp only [List.append_eq, List.mem_append, List.mem_cons, not_or]
  exact ⟨⟨by decide, less_not_mem_name tag⟩, by decide⟩

/-- A bracket in a text that begins with a tag is the one of the tag or stands behind the tag. -/
theorem bracket_cases {inner rest front behind : Text} (single : '<' ∉ inner)
    (found : ('<' :: inner) ++ rest = front ++ '<' :: behind) :
    '<' :: inner <+: '<' :: behind ∨ ∃ skipped, rest = skipped ++ '<' :: behind := by
  rcases List.append_eq_append_iff.mp found with ⟨skipped, -, further⟩ | ⟨covered, within, further⟩
  · exact .inr ⟨skipped, further⟩
  · cases covered with
    | nil => exact .inr ⟨[], further.symm⟩
    | cons character covered =>
        obtain ⟨rfl, -⟩ := List.cons.inj further
        cases front with
        | nil => exact .inl ⟨rest, by rw [within]; exact further.symm⟩
        | cons first front =>
            obtain ⟨-, inside⟩ := List.cons.inj within
            exact absurd (by rw [inside]; simp) single

def BeginsTag (text : Text) : Prop :=
  (∃ tag attributes, (∀ assigned ∈ attributes, IsPlain assigned.2) ∧ startTag tag attributes <+: text) ∨
    ∃ tag, endTag tag <+: text

theorem Closes.beginsTag {opened : List Tag} {text front rest : Text} (closes : Closes opened text)
    (found : text = front ++ '<' :: rest) : BeginsTag ('<' :: rest) := by
  induction closes generalizing front with
  | done => simp at found
  | character character ownsNoTag _ ih =>
      cases front with
      | nil => exact absurd (List.cons.inj found).1 ownsNoTag.1
      | cons first front => exact ih (List.cons.inj found).2
  | start tag attributes plain _ ih =>
      obtain ⟨inner, written, single⟩ := exists_startTag_eq tag attributes plain
      rw [written] at found
      rcases bracket_cases single found with begins | ⟨skipped, further⟩
      · exact .inl ⟨tag, attributes, plain, written ▸ begins⟩
      · exact ih further
  | stop tag _ ih =>
      obtain ⟨inner, written, single⟩ := exists_endTag_eq tag
      rw [written] at found
      rcases bracket_cases single found with begins | ⟨skipped, further⟩
      · exact .inr ⟨tag, written ▸ begins⟩
      · exact ih further

/-! ### Sound markup -/

/-- Markup that cannot break the page around it: every opening bracket in it begins a tag of pages with
plain values, and the tags are nested and closed. -/
structure IsSound (markup : Text) : Prop where
  brackets : ∀ front rest, markup = front ++ '<' :: rest → BeginsTag ('<' :: rest)
  nested : IsFragment markup

/-- Markup that takes the open elements from one list to another, the one opened last in front, and shows some
identifiers. -/
structure Shows (before : List Tag) (markup : Text) (after : List Tag) (ids : List Text) : Prop where
  moves : ∀ {rest : Text}, Closes after rest → Closes before (markup ++ rest)
  hasIds : HasIds markup ids

namespace Shows

variable {before between after : List Tag} {markup further : Text} {ids others : List Text}

theorem isSound (complete : Shows [] markup [] ids) : IsSound markup := by
  have nested : IsFragment markup := by
    have closes := complete.moves .done
    rwa [List.append_nil] at closes
  exact ⟨fun _ _ found => nested.beginsTag found, nested⟩

/-- The identifiers may be told in another way. -/
theorem telling (complete : Shows before markup after ids) (same : ids = others) :
    Shows before markup after others :=
  same ▸ complete

theorem nil : Shows before [] before [] := ⟨fun closes => closes, .nil⟩

theorem append (first : Shows before markup between ids) (second : Shows between further after others) :
    Shows before (markup ++ further) after (ids ++ others) := by
  refine ⟨fun closes => ?_, first.hasIds.append second.hasIds⟩
  rw [List.append_assoc]
  exact first.moves (second.moves closes)

/-- Markup that shows no identifiers in front of other markup. -/
theorem andThen (first : Shows before markup between []) (second : Shows between further after ids) :
    Shows before (markup ++ further) after ids :=
  first.append second

/-- Characters that bound no tag stand for themselves. -/
theorem text (noTag : '<' ∉ markup ∧ '>' ∉ markup) : Shows before markup before [] := by
  refine ⟨fun {rest} closes => ?_, .of_plain markup noTag.1⟩
  induction markup with
  | nil => exact closes
  | cons character markup ih =>
      simp only [List.mem_cons, not_or] at noTag
      obtain ⟨⟨noLess, noLessBehind⟩, noGreater, noGreaterBehind⟩ := noTag
      exact .character character ⟨Ne.symm noLess, Ne.symm noGreater⟩ (ih ⟨noLessBehind, noGreaterBehind⟩)

theorem escape (text : Text) : Shows before (escape text) before [] :=
  .text ⟨not_mem_escape text '<' (by decide), not_mem_escape text '>' (by decide)⟩

theorem start (tag : Tag) {attributes : List (AttributeName × Text)}
    (plain : ∀ assigned ∈ attributes, IsPlain assigned.2) :
    Shows before (startTag tag attributes) (tag :: before) (idsOf attributes) :=
  ⟨fun closes => .start tag attributes plain closes, hasIds_startTag tag plain⟩

theorem stop (tag : Tag) : Shows (tag :: before) (endTag tag) before [] :=
  ⟨fun closes => .stop tag closes, hasIds_endTag tag⟩

/-- Pieces in a row, each of which leaves the open elements as they are. -/
theorem flatMap {Item : Type} {items : List Item} {write : Item → Text} {idsOfItem : Item → List Text}
    (each : ∀ item ∈ items, Shows before (write item) before (idsOfItem item)) :
    Shows before (items.flatMap write) before (items.flatMap idsOfItem) := by
  induction items with
  | nil => exact nil
  | cons item items ih =>
      obtain ⟨own, others⟩ := List.forall_mem_cons.mp each
      exact own.append (ih others)

end Shows

/-! ### Fixed markup -/

inductive Mark where
  | text (content : Text)
  | start (tag : Tag) (className : Text)
  | bare (tag : Tag)
  | stop (tag : Tag)

namespace Mark

def write : Mark → Text
  | .text content => content
  | .start tag className => startTag tag [(.className, className)]
  | .bare tag => startTag tag []
  | .stop tag => endTag tag

/-- Whether a part is what it says, so that no text holds a tag and no value its end. -/
def IsProper : Mark → Prop
  | .text content => '<' ∉ content ∧ '>' ∉ content
  | .start _ className => IsPlain className
  | .bare _ => True
  | .stop _ => True

instance : DecidablePred IsProper
  | .text _ => inferInstanceAs (Decidable (_ ∧ _))
  | .start _ className => inferInstanceAs (Decidable (IsPlain className))
  | .bare _ => inferInstanceAs (Decidable True)
  | .stop _ => inferInstanceAs (Decidable True)

/-- The open elements behind parts in a row, unless one of them closes an element that is not the last. -/
def track? (opened : List Tag) : List Mark → Option (List Tag)
  | [] => some opened
  | .text _ :: rest => track? opened rest
  | .start tag _ :: rest => track? (tag :: opened) rest
  | .bare tag :: rest => track? (tag :: opened) rest
  | .stop tag :: rest =>
      match opened with
      | [] => none
      | last :: opened => if last = tag then track? opened rest else none

end Mark

/-- Fixed markup does what its parts do. -/
theorem Shows.fixed {before after : List Tag} {markup : Text} (marks : List Mark)
    (written : markup = marks.flatMap Mark.write) (proper : ∀ mark ∈ marks, mark.IsProper)
    (tracked : Mark.track? before marks = some after) : Shows before markup after [] := by
  subst written
  induction marks generalizing before with
  | nil =>
      cases tracked
      exact nil
  | cons mark marks ih =>
      obtain ⟨own, others⟩ := List.forall_mem_cons.mp proper
      cases mark with
      | text content => exact (Shows.text own).andThen (ih others tracked)
      | start tag className =>
          have plain : ∀ assigned ∈ [(AttributeName.className, className)], IsPlain assigned.2 :=
            List.forall_mem_singleton.mpr own
          exact (Shows.start tag plain).andThen (ih others tracked)
      | bare tag => exact (Shows.start tag (List.forall_mem_nil _)).andThen (ih others tracked)
      | stop tag =>
          cases before with
          | nil => cases tracked
          | cons last opened =>
              rw [Mark.track?] at tracked
              split at tracked
              · rename_i same
                subst same
                exact (Shows.stop last).andThen (ih others tracked)
              · cases tracked

end DocSite
