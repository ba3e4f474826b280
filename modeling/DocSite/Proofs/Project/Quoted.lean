/-
Quoted values.

A value stands between two quotation marks; inside it, a backslash takes the next character with it. The values
of a text are found from the left, each behind the one before, and what holds no quotation mark can stand around
the text without changing them.
-/
import DocSite.Project.Manifest

namespace DocSite

/-- Whether a text can stand between quotation marks: a backslash takes the next character with it, whatever it
is but a line feed, and apart from that no mark is inside. -/
inductive IsQuotable : Text → Prop
  | nil : IsQuotable []
  | plain {character : Char} {rest : Text} (noMark : character ≠ '"') (noBackslash : character ≠ '\\')
      (further : IsQuotable rest) : IsQuotable (character :: rest)
  | escaped {character : Char} {rest : Text} (sameLine : character ≠ '\n') (further : IsQuotable rest) :
      IsQuotable ('\\' :: character :: rest)

/-- A quoted value in a text, between what stands before its opening mark and behind its closing mark. -/
structure QuotedIn (text before value after : Text) : Prop where
  quotable : IsQuotable value
  split : text = before ++ '"' :: (value ++ '"' :: after)

/-- The values that are quoted in a text: the leftmost one, and behind it the others in the same way. -/
inductive Quotes : Text → List Text → Prop
  | none {text : Text} (never : ∀ before value after, ¬QuotedIn text before value after) : Quotes text []
  | next {text before value after : Text} {values : List Text} (here : QuotedIn text before value after)
      (leftmost : ∀ earlier other behind, QuotedIn text earlier other behind → before.length ≤ earlier.length)
      (further : Quotes after values) : Quotes text (value :: values)

section Values

variable {text rest before value after : Text} {values : List Text} {character : Char}

theorem quotedValue?_eq_some_iff :
    quotedValue? text = some (value, rest) ↔ IsQuotable value ∧ text = value ++ '"' :: rest := by
  constructor
  · intro found
    fun_induction quotedValue? text generalizing value rest with
    | case1 => cases found
    | case2 tail =>
        cases found
        exact ⟨.nil, rfl⟩
    | case3 => cases found
    | case4 => cases found
    | case5 character tail sameLine ih =>
        obtain ⟨parts, inner, equal⟩ := Option.map_eq_some_iff.mp found
        obtain ⟨quotable, rfl⟩ := ih inner
        cases equal
        exact ⟨.escaped sameLine quotable, rfl⟩
    | case6 character tail noMark noEnd noBackslash ih =>
        obtain ⟨parts, inner, equal⟩ := Option.map_eq_some_iff.mp found
        obtain ⟨quotable, split⟩ := ih inner
        cases equal
        refine ⟨.plain noMark (fun backslash => ?_) quotable, congrArg (character :: ·) split⟩
        cases tail with
        | nil => exact noEnd backslash rfl
        | cons next tail => exact noBackslash next tail backslash rfl
  · rintro ⟨quotable, rfl⟩
    induction quotable with
    | nil => rfl
    | plain noMark noBackslash _ ih => simp [quotedValue?, noBackslash, ih]
    | escaped sameLine _ ih => simp [quotedValue?, sameLine, ih]

theorem quotedIn_nil : ¬QuotedIn [] before value after := by
  rintro ⟨-, split⟩
  exact List.append_ne_nil_of_right_ne_nil before (List.cons_ne_nil _ _) split.symm

theorem quotedIn_cons : QuotedIn (character :: rest) before value after ↔
    (before = [] ∧ character = '"' ∧ quotedValue? rest = some (value, after)) ∨
      ∃ further, before = character :: further ∧ QuotedIn rest further value after := by
  rw [quotedValue?_eq_some_iff]
  constructor
  · rintro ⟨quotable, split⟩
    cases before with
    | nil =>
        obtain ⟨rfl, rfl⟩ := List.cons.inj split
        exact .inl ⟨rfl, rfl, quotable, rfl⟩
    | cons first further =>
        obtain ⟨rfl, rfl⟩ := List.cons.inj split
        exact .inr ⟨further, rfl, quotable, rfl⟩
  · rintro (⟨rfl, rfl, quotable, rfl⟩ | ⟨further, rfl, quotable, rfl⟩)
    · exact ⟨quotable, rfl⟩
    · exact ⟨quotable, rfl⟩

/-- A character that opens no value is passed over. -/
theorem Quotes.cons (quotes : Quotes rest values)
    (passed : ∀ value after, ¬QuotedIn (character :: rest) [] value after) : Quotes (character :: rest) values := by
  have behind {before value after : Text} (quoted : QuotedIn (character :: rest) before value after) :
      ∃ further, before = character :: further ∧ QuotedIn rest further value after := by
    refine (quotedIn_cons.mp quoted).resolve_left ?_
    rintro ⟨rfl, -, -⟩
    exact passed value after quoted
  cases quotes with
  | none never =>
      refine .none fun before value after quoted => ?_
      obtain ⟨further, -, inside⟩ := behind quoted
      exact never further value after inside
  | next here leftmost further =>
      refine .next (quotedIn_cons.mpr (.inr ⟨_, rfl, here⟩)) (fun earlier other after quoted => ?_) further
      obtain ⟨shorter, rfl, inside⟩ := behind quoted
      exact Nat.succ_le_succ (leftmost shorter other after inside)

theorem quotes_quotedValues (text : Text) : Quotes text (quotedValues text) := by
  fun_induction quotedValues text with
  | case1 => exact .none fun _ _ _ => quotedIn_nil
  | case2 rest value after found ih =>
      exact .next (quotedIn_cons.mpr (.inl ⟨rfl, rfl, found⟩)) (fun _ _ _ _ => Nat.zero_le _) ih
  | case3 rest unclosed ih =>
      refine ih.cons fun value after quoted => ?_
      rcases quotedIn_cons.mp quoted with ⟨-, -, found⟩ | ⟨further, empty, -⟩
      · rw [unclosed] at found
        cases found
      · cases empty
  | case4 character rest noMark ih =>
      refine ih.cons fun value after quoted => ?_
      rcases quotedIn_cons.mp quoted with ⟨-, mark, -⟩ | ⟨further, empty, -⟩
      · exact noMark mark
      · cases empty

theorem Quotes.unique {others : List Text} (quotes : Quotes text values) (quotesToo : Quotes text others) :
    values = others := by
  induction quotes generalizing others with
  | none never =>
      cases quotesToo with
      | none _ => rfl
      | next here _ _ => exact absurd here (never _ _ _)
  | next here leftmost further ih =>
      cases quotesToo with
      | none never => exact absurd here (never _ _ _)
      | next hereToo leftmostToo furtherToo =>
          have lengths := Nat.le_antisymm (leftmost _ _ _ hereToo) (leftmostToo _ _ _ here)
          obtain ⟨-, rest⟩ := List.append_inj (here.split.symm.trans hereToo.split) lengths
          have value := quotedValue?_eq_some_iff.mpr ⟨here.quotable, (List.cons.inj rest).2.symm⟩
          rw [quotedValue?_eq_some_iff.mpr ⟨hereToo.quotable, rfl⟩] at value
          obtain ⟨rfl, rfl⟩ := Prod.mk.inj (Option.some.inj value)
          rw [ih furtherToo]

/-- The values that are read in a text are those that are quoted there. -/
theorem quotedValues_eq_iff : quotedValues text = values ↔ Quotes text values :=
  ⟨fun same => same ▸ quotes_quotedValues text, (quotes_quotedValues text).unique⟩

end Values

/-! ### Surroundings -/

section Surroundings

variable {text : Text} {values : List Text}

theorem Quotes.behind {front : Text} (unmarked : '"' ∉ front) (quotes : Quotes text values) :
    Quotes (front ++ text) values := by
  induction front with
  | nil => exact quotes
  | cons character front ih =>
      refine (ih fun mark => unmarked (List.mem_cons_of_mem _ mark)).cons fun value after quoted => ?_
      exact unmarked (List.mem_cons.mpr (.inl (List.cons.inj quoted.split).1.symm))

theorem quotedIn_append {back before value after : Text} (unmarked : '"' ∉ back) :
    QuotedIn (text ++ back) before value after ↔
      ∃ inside, after = inside ++ back ∧ QuotedIn text before value inside := by
  constructor
  · rintro ⟨quotable, split⟩
    have whole : text ++ back = (before ++ '"' :: value) ++ '"' :: after := by
      rw [split, List.append_assoc, List.cons_append]
    rcases List.append_eq_append_iff.mp whole with ⟨more, -, outside⟩ | ⟨closed, inside, rest⟩
    · exact absurd (outside ▸ List.mem_append_right more List.mem_cons_self) unmarked
    · cases closed with
      | nil =>
          rw [List.nil_append] at rest
          exact absurd (rest ▸ List.mem_cons_self) unmarked
      | cons mark behind =>
          obtain ⟨rfl, rfl⟩ := List.cons.inj rest
          exact ⟨behind, rfl, quotable, by rw [inside, List.append_assoc, List.cons_append]⟩
  · rintro ⟨inside, rfl, quotable, rfl⟩
    exact ⟨quotable, by simp only [List.append_assoc, List.cons_append]⟩

theorem Quotes.before {back : Text} (unmarked : '"' ∉ back) (quotes : Quotes text values) :
    Quotes (text ++ back) values := by
  induction quotes with
  | none never =>
      refine .none fun before value after quoted => ?_
      obtain ⟨inside, -, quoted⟩ := (quotedIn_append unmarked).mp quoted
      exact never before value inside quoted
  | next here leftmost _ ih =>
      refine .next ((quotedIn_append unmarked).mpr ⟨_, rfl, here⟩) (fun earlier other behind quoted => ?_) ih
      obtain ⟨inside, -, quoted⟩ := (quotedIn_append unmarked).mp quoted
      exact leftmost earlier other inside quoted

end Surroundings

end DocSite
