/-
Written paths.

The components of a path hold no slash, and none of them is empty or a single point. Such paths are exactly
the ones that are read from texts, and each is read back from its written form.
-/
import DocSite.Files.Path

namespace DocSite

namespace Text

theorem splitOn_of_not_mem {separator : Char} {text : Text} (absent : separator ∉ text) :
    splitOn separator text = [text] := by
  induction text with
  | nil => rfl
  | cons character text ih =>
      rw [List.mem_cons, not_or] at absent
      rw [splitOn, if_neg (Ne.symm absent.1), ih absent.2]
      rfl

theorem splitOn_append {separator : Char} {front : Text} (absent : separator ∉ front) (rest : Text) :
    splitOn separator (front ++ separator :: rest) = front :: splitOn separator rest := by
  induction front with
  | nil => rw [List.nil_append, splitOn, if_pos rfl]
  | cons character front ih =>
      rw [List.mem_cons, not_or] at absent
      rw [List.cons_append, splitOn, if_neg (Ne.symm absent.1), ih absent.2]
      rfl

theorem splitOn_join {separator : Char} {pieces : List Text} (filled : pieces ≠ [])
    (absent : ∀ piece ∈ pieces, separator ∉ piece) :
    splitOn separator (join [separator] pieces) = pieces := by
  induction pieces with
  | nil => exact absurd rfl filled
  | cons piece pieces ih =>
      have here := absent piece List.mem_cons_self
      cases pieces with
      | nil => exact splitOn_of_not_mem here
      | cons next pieces =>
          have further := ih (List.cons_ne_nil _ _) fun other member =>
            absent other (List.mem_cons_of_mem _ member)
          rw [join, List.append_assoc, List.singleton_append, splitOn_append here, further]
          exact List.cons_ne_nil _ _

end Text

namespace FilePath

structure Normal (path : FilePath) : Prop where
  busy : ∀ part ∈ path.parts, isIdle part = false
  noSlash : ∀ part ∈ path.parts, '/' ∉ part

theorem partsOf_slash (text : Text) : partsOf ('/' :: text) = partsOf text := by
  unfold partsOf
  rw [Text.splitOn, if_pos rfl]
  rfl

namespace Normal

variable {path : FilePath} (normal : path.Normal)
include normal

theorem partsOf_join : partsOf (Text.join ['/'] path.parts) = path.parts := by
  have kept : path.parts.filter (fun part => !isIdle part) = path.parts :=
    List.filter_eq_self.mpr fun part member => by rw [normal.busy part member]; rfl
  unfold partsOf
  cases empty : path.parts with
  | nil => rfl
  | cons part parts =>
      rw [← empty, Text.splitOn_join (by rw [empty]; exact List.cons_ne_nil _ _) normal.noSlash, kept]

theorem head?_join : (Text.join ['/'] path.parts).head? ≠ some '/' := by
  intro slash
  cases shape : path.parts with
  | nil =>
      rw [shape] at slash
      cases slash
  | cons part parts =>
      have busy := normal.busy part (by rw [shape]; exact List.mem_cons_self)
      have noSlash := normal.noSlash part (by rw [shape]; exact List.mem_cons_self)
      cases part with
      | nil => cases busy
      | cons first part =>
          have begins : (Text.join ['/'] path.parts).head? = some first := by
            rw [shape]
            cases parts with
            | nil => rfl
            | cons next parts => rfl
          rw [begins] at slash
          rw [Option.some.inj slash] at noSlash
          exact noSlash List.mem_cons_self

theorem takeWhile_slashes (anchor : Anchor) :
    (Anchor.text anchor ++ Text.join ['/'] path.parts).takeWhile (· == '/') = Anchor.text anchor := by
  have slashes : ∀ character ∈ Anchor.text anchor, (character == '/') = true := by
    cases anchor <;> exact List.all_eq_true.mp rfl
  have stops : (Text.join ['/'] path.parts).takeWhile (· == '/') = [] := by
    have noSlash := normal.head?_join
    cases begins : Text.join ['/'] path.parts with
    | nil => rfl
    | cons first rest =>
        rw [begins] at noSlash
        exact List.takeWhile_cons_of_neg fun same => noSlash (congrArg some (beq_iff_eq.mp same))
  rw [List.takeWhile_append_of_pos slashes, stops, List.append_nil]

/-- A path is read back from its written form. -/
theorem ofText_text : ofText path.text = path := by
  obtain ⟨anchor, parts⟩ := path
  have join := normal.partsOf_join
  have slashes := normal.takeWhile_slashes
  dsimp only at join slashes
  have whole (plain : text ⟨anchor, parts⟩ = Anchor.text anchor ++ Text.join ['/'] parts) :
      ofText (text ⟨anchor, parts⟩) = ⟨anchor, parts⟩ := by
    unfold ofText anchorOf
    rw [plain, slashes]
    cases anchor with
    | here => exact congrArg (FilePath.mk .here) join
    | root => exact congrArg (FilePath.mk .root) ((partsOf_slash _).trans join)
    | doubleRoot =>
        exact congrArg (FilePath.mk .doubleRoot) ((partsOf_slash _).trans ((partsOf_slash _).trans join))
  cases anchor with
  | here =>
      cases parts with
      | nil => decide
      | cons part parts => exact whole rfl
  | root => exact whole rfl
  | doubleRoot => exact whole rfl

end Normal

end FilePath
end DocSite
