/-
Texts made of lines.

A text in which every line is closed by a line feed has exactly these lines, as long as none of them has a
line break inside. Trimmed and numbered, its lines are those of the list.
-/
import DocSite.Source.Line
import DocSite.Proofs.Text.Trim

namespace DocSite
namespace Text

def unlines : List Text → Text
  | [] => []
  | line :: rest => line ++ '\n' :: unlines rest

def OneLine (text : Text) : Prop :=
  ∀ character ∈ text, isLineBreak character = false

instance (text : Text) : Decidable (OneLine text) :=
  List.decidableBAll _ text

theorem oneLine_nil : OneLine [] := by
  intro character member
  cases member

theorem OneLine.cons {character : Char} {rest : Text} (unbroken : isLineBreak character = false)
    (oneLine : OneLine rest) : OneLine (character :: rest) := by
  intro other member
  rcases List.mem_cons.mp member with first | later
  · rw [first]
    exact unbroken
  · exact oneLine other later

theorem OneLine.append {first second : Text} (left : OneLine first) (right : OneLine second) :
    OneLine (first ++ second) := by
  intro character member
  rcases List.mem_append.mp member with inFirst | inSecond
  · exact left character inFirst
  · exact right character inSecond

theorem lines_cons {character : Char} (unbroken : isLineBreak character = false) (rest : Text) :
    lines (character :: rest) = consHead character (lines rest) := by
  rw [lines.eq_def]
  split
  · rename_i equal
    cases equal
  · rename_i equal
    obtain ⟨same, _⟩ := List.cons.inj equal
    rw [same] at unbroken
    cases unbroken
  · rename_i equal
    obtain ⟨same, tail⟩ := List.cons.inj equal
    rw [← same, ← tail, if_neg (by rw [unbroken]; exact Bool.false_ne_true)]

theorem lines_append_break {line : Text} (oneLine : OneLine line) (rest : Text) :
    lines (line ++ '\n' :: rest) = line :: lines rest := by
  induction line with
  | nil => rfl
  | cons character line ih =>
      have further := ih fun other member => oneLine other (List.mem_cons_of_mem character member)
      rw [List.cons_append, lines_cons (oneLine character List.mem_cons_self), further]
      rfl

theorem lines_unlines {texts : List Text} (oneLine : ∀ text ∈ texts, OneLine text) :
    lines (unlines texts) = texts := by
  induction texts with
  | nil => rfl
  | cons text rest ih =>
      unfold unlines
      rw [lines_append_break (oneLine text List.mem_cons_self)]
      rw [ih fun other member => oneLine other (List.mem_cons_of_mem text member)]

end Text

theorem length_numberedLines (number : Nat) (texts : List Text) :
    (numberedLines number texts).length = texts.length := by
  induction texts generalizing number with
  | nil => rfl
  | cons text rest ih => simp only [numberedLines, List.length_cons, ih]

theorem numberedLines_append (number : Nat) (first second : List Text) :
    numberedLines number (first ++ second) =
      numberedLines number first ++ numberedLines (number + first.length) second := by
  induction first generalizing number with
  | nil => rfl
  | cons text rest ih =>
      simp only [List.cons_append, numberedLines, List.length_cons]
      rw [ih (number + 1)]
      rw [Nat.add_assoc, Nat.add_comm 1]

theorem sourceLines_unlines {texts : List Text} (oneLine : ∀ text ∈ texts, Text.OneLine text) :
    sourceLines (Text.unlines texts) = numberedLines 1 texts := by
  unfold sourceLines
  rw [Text.lines_unlines oneLine]

end DocSite
