/-
Splitting at one character.

A text is the row of its segments with the separator between neighbours. It is cut where the separator stands
outside literals and no bracket in front of it is open, where a closer without an opener closes nothing. In front of
every segment the reader knows what it knows in front of a text, so no segment is cut again, trimmed or not.
-/
import DocSite.Proofs.Source.Literals

namespace DocSite

/-! ### Open brackets -/

/-- A position outside literals at which no bracket is open: what stands right in front of it never opens more
brackets than it closes, however far one goes back. -/
structure IsTopLevel (text : Text) (position : Nat) : Prop where
  literals : ClosesLiterals (text.take position)
  brackets : ∀ behind, behind <:+ bareFrom .outside (text.take position) →
    behind.countP isOpener ≤ behind.countP isCloser

theorem depth_after (nesting : Nesting) (text : Text) :
    (nesting.after text).depth = (bareFrom nesting.quotation text).foldl depthAfter nesting.depth := by
  induction text generalizing nesting with
  | nil =>
      cases nesting with
      | mk quotation depth => cases quotation <;> rfl
  | cons character rest ih =>
      refine (ih (nesting.step character)).trans ?_
      cases nesting with
      | mk quotation depth => cases quotation <;> rfl

theorem isCloser_of_isOpener {character : Char} (opens : isOpener character = true) :
    isCloser character = false := by
  unfold isOpener closerOf? at opens
  split at opens
  · rfl
  · rfl
  · rfl
  · cases opens

theorem depthAfter_le_iff {depth bound : Nat} {character : Char} :
    depthAfter depth character ≤ bound ↔
      depth + [character].countP isOpener ≤ [character].countP isCloser + bound := by
  rw [List.countP_singleton, List.countP_singleton]
  unfold depthAfter
  by_cases opens : isOpener character = true
  · rw [isCloser_of_isOpener opens, if_pos opens, if_pos opens, if_neg Bool.false_ne_true]
    omega
  · rw [if_neg opens, if_neg opens]
    by_cases closes : isCloser character = true
    · rw [if_pos closes, if_pos closes]
      omega
    · rw [if_neg closes, if_neg closes]
      omega

theorem forall_suffix_concat {property : Text → Prop} {front : Text} {character : Char} :
    (∀ behind, behind <:+ front ++ [character] → property behind) ↔
      property [] ∧ ∀ behind, behind <:+ front → property (behind ++ [character]) := by
  simp only [List.suffix_concat_iff]
  constructor
  · intro each
    exact ⟨each [] (.inl rfl), fun behind isEnd => each _ (.inr ⟨behind, rfl, isEnd⟩)⟩
  · rintro ⟨nothing, further⟩ behind (rfl | ⟨front, rfl, isEnd⟩)
    · exact nothing
    · exact further front isEnd

/-- The depth that never falls below zero is the most that an end of the bare text opens and does not close. -/
theorem depth_le_iff {bare : Text} {bound : Nat} :
    bare.foldl depthAfter 0 ≤ bound ↔
      ∀ behind, behind <:+ bare → behind.countP isOpener ≤ behind.countP isCloser + bound := by
  induction bare using List.reverseRecOn generalizing bound with
  | nil =>
      refine iff_of_true (Nat.zero_le bound) fun behind isEnd => ?_
      rw [List.suffix_nil.mp isEnd]
      exact Nat.zero_le _
  | append_singleton front character ih =>
      rw [List.foldl_append, List.foldl_cons, List.foldl_nil, depthAfter_le_iff, forall_suffix_concat]
      simp only [List.countP_append, List.countP_nil, Nat.zero_le, true_and]
      by_cases room : [character].countP isOpener ≤ [character].countP isCloser + bound
      · -- What the character opens is taken from the bound, and what it closes is added.
        rw [← Nat.le_sub_iff_add_le room, ih]
        refine forall₂_congr fun behind _ => ?_
        omega
      · refine iff_of_false (fun deep => room (Nat.le_trans (Nat.le_add_left _ _) deep)) fun each => room ?_
        have alone := each [] List.nil_suffix
        rwa [List.countP_nil, List.countP_nil, Nat.zero_add, Nat.zero_add] at alone

/-- Outside literals and at depth zero are the places that are told apart by the reader of pieces. -/
theorem isTopLevel_iff {text : Text} {position : Nat} :
    IsTopLevel text position ↔ nestingAt text position = .top := by
  have depth : (nestingAt text position).depth = 0 ↔ ∀ behind,
      behind <:+ bareFrom .outside (text.take position) → behind.countP isOpener ≤ behind.countP isCloser := by
    rw [← Nat.le_zero]
    exact (depth_after .top (text.take position)).symm ▸ depth_le_iff
  rw [nestingAt_eq_top_iff, depth]
  exact ⟨fun top => ⟨closesLiterals_iff.mp top.literals, top.brackets⟩,
    fun top => ⟨closesLiterals_iff.mpr top.1, top.2⟩⟩

/-! ### Segments on their own -/

/-- A segment that is read from where it stands, or on its own behind a cut, is one segment. -/
theorem topLevelSegments_uncut (isSeparator : Char → Bool) (nesting : Nesting) (text : Text) :
    ∃ first rest, topLevelSegments isSeparator nesting.quotation nesting.depth text = first :: rest ∧
      topLevelSegments isSeparator nesting.quotation nesting.depth first = [first] ∧
        ∀ segment ∈ rest, topLevelSegments isSeparator .outside 0 segment = [segment] := by
  induction text generalizing nesting with
  | nil => exact ⟨[], [], rfl, rfl, nofun⟩
  | cons character text ih =>
      obtain ⟨first, rest, segments, alone, others⟩ := ih (nesting.step character)
      rcases topLevelSegments_cons isSeparator nesting character text with
        ⟨kept, pieces⟩ | ⟨separates, flat, rfl, pieces⟩
      · refine ⟨character :: first, rest, by rw [pieces, segments]; rfl, ?_, others⟩
        obtain ⟨-, again⟩ := (topLevelSegments_cons isSeparator nesting character first).resolve_right
          fun cut => kept ⟨cut.1, cut.2.1, cut.2.2.1⟩
        rw [again, alone]
        rfl
      · refine ⟨[], first :: rest, by rw [pieces, segments], rfl, ?_⟩
        have restarts : Nesting.top.step character = .top := by
          change Nesting.mk (Quotation.outside.step character) (depthAfter 0 character) = _
          rw [step_flat flat, depthAfter_flat flat]
          rfl
        rw [restarts] at alone
        exact List.forall_mem_cons.mpr ⟨alone, others⟩

theorem after_blanks {blanks : Text} (blank : ∀ character ∈ blanks, isBlank character = true) :
    Nesting.top.after blanks = .top := by
  induction blanks with
  | nil => rfl
  | cons character blanks ih =>
      have flat := isFlat_of_isBlank (blank character List.mem_cons_self)
      change Nesting.after ⟨Quotation.outside.step character, depthAfter 0 character⟩ blanks = _
      rw [step_flat flat, depthAfter_flat flat]
      exact ih fun other member => blank other (List.mem_cons_of_mem _ member)

section Separator

variable {separator : Char} {text : Text}

/-- A text is one segment if the separator never stands where it cuts. -/
theorem topLevelSegments_eq_singleton_iff :
    topLevelSegments (· == separator) .outside 0 text = [text] ↔
      ∀ position, text[position]? = some separator → isFlat separator = true → nestingAt text position ≠ .top := by
  have cuts := mem_cutsOf_topLevelSegments (· == separator) .top text
  have whole := join_topLevelSegments separator .top text
  change ∀ position, position ∈ cutsOf (topLevelSegments (· == separator) .outside 0 text) ↔ _ at cuts
  change Text.join [separator] (topLevelSegments (· == separator) .outside 0 text) = text at whole
  constructor
  · intro single position found flat top
    have cut := (cuts position).mpr ⟨separator, found, beq_self_eq_true separator, flat, top⟩
    rw [single] at cut
    cases cut
  · intro uncut
    match segments : topLevelSegments (· == separator) .outside 0 text with
    | [] => exact absurd segments (topLevelSegments_ne_nil _ _ _ _)
    | [segment] =>
        rw [segments] at whole
        exact congrArg (fun piece => [piece]) whole
    | first :: second :: others =>
        rw [segments] at cuts
        obtain ⟨character, found, same, flat, top⟩ := (cuts first.length).mp List.mem_cons_self
        rw [beq_iff_eq.mp same] at found flat
        exact absurd top (uncut first.length found flat)

/-- Blanks around a text say nothing to the reader, so without them nothing more is cut. -/
theorem topLevelSegments_trim (single : topLevelSegments (· == separator) .outside 0 text = [text]) :
    topLevelSegments (· == separator) .outside 0 (Text.trim text) = [Text.trim text] := by
  obtain ⟨leading, whole, blank⟩ := Text.exists_blanks_trimLeft text
  obtain ⟨trailing, body, -⟩ := Text.exists_blanks_trimRight (Text.trimLeft text)
  have parts : text = leading ++ (Text.trim text ++ trailing) := whole.trans (congrArg (leading ++ ·) body)
  rw [topLevelSegments_eq_singleton_iff] at single ⊢
  intro position found flat top
  have inside := (List.getElem?_eq_some_iff.mp found).1
  have foundWhole : text[leading.length + position]? = some separator := by
    rw [parts, List.getElem?_append_right (Nat.le_add_right _ _), Nat.add_sub_cancel_left,
      List.getElem?_append_left inside, found]
  refine single (leading.length + position) foundWhole flat ?_
  unfold nestingAt Nesting.after at top ⊢
  have front : text.take (leading.length + position) = leading ++ (Text.trim text).take position := by
    conv_lhs => rw [parts]
    rw [List.take_length_add_append, List.take_append_of_le_length inside.le]
  rw [front, List.foldl_append]
  exact (congrArg (fun nesting => List.foldl Nesting.step nesting _) (after_blanks blank)).trans top

end Separator

/-- Splitting at a character that is no quote mark and no bracket loses nothing: the text is a row of segments with
the separator between them, cut at all its top-level occurrences and nowhere else, and the pieces are these segments
without the blanks around them. Every piece is split into itself. -/
theorem splitTopLevelAt_lossless {separator : Char} (flat : isFlat separator = true) (text : Text) :
    (∃ segments, text = Text.join [separator] segments ∧
      splitTopLevelAt separator text = segments.map Text.trim ∧
        ∀ position, position ∈ cutsOf segments ↔ text[position]? = some separator ∧ IsTopLevel text position) ∧
      ∀ piece ∈ splitTopLevelAt separator text, splitTopLevelAt separator piece = [piece] := by
  constructor
  · refine ⟨topLevelSegments (· == separator) .outside 0 text, ?_, rfl, fun position => ?_⟩
    · exact (join_topLevelSegments separator .top text).symm
    · refine (mem_cutsOf_topLevelSegments (· == separator) .top text position).trans ?_
      rw [isTopLevel_iff]
      constructor
      · rintro ⟨character, found, same, -, top⟩
        rw [beq_iff_eq.mp same] at found
        exact ⟨found, top⟩
      · rintro ⟨found, top⟩
        exact ⟨separator, found, beq_self_eq_true separator, flat, top⟩
  · intro piece member
    obtain ⟨segment, isSegment, rfl⟩ := List.mem_map.mp member
    obtain ⟨first, rest, segments, alone, others⟩ := topLevelSegments_uncut (· == separator) .top text
    change topLevelSegments (· == separator) .outside 0 text = _ at segments
    have single : topLevelSegments (· == separator) .outside 0 segment = [segment] := by
      rw [segments] at isSegment
      rcases List.mem_cons.mp isSegment with rfl | later
      · exact alone
      · exact others segment later
    unfold splitTopLevelAt splitTopLevel
    rw [topLevelSegments_trim single, List.map_singleton, Text.trim_trim]

/-- Blanks can separate too, also behind a closer that closes nothing, but not inside brackets or in a literal that
is never closed. -/
theorem splitTopLevelAt_lossless_blank :
    isFlat ' ' = true ∧
      splitTopLevelAt ' ' " ) f(1, 2) \"y z".toList = ["", ")", "f(1, 2)", "\"y z"].map String.toList ∧
        (∃ segments, " ) f(1, 2) \"y z".toList = Text.join [' '] segments ∧
          splitTopLevelAt ' ' " ) f(1, 2) \"y z".toList = segments.map Text.trim ∧
            ∀ position, position ∈ cutsOf segments ↔
              " ) f(1, 2) \"y z".toList[position]? = some ' ' ∧ IsTopLevel " ) f(1, 2) \"y z".toList position) ∧
          ∀ piece ∈ splitTopLevelAt ' ' " ) f(1, 2) \"y z".toList, splitTopLevelAt ' ' piece = [piece] :=
  ⟨rfl, by decide, splitTopLevelAt_lossless rfl _⟩

end DocSite
