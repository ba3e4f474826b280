/-
Reading what has been written.

The tokens of a written value are read back as the value. Only a number with more digits than are read is in
the way: the first one decides, wherever it stands.
-/
import DocSite.Proofs.Json.Tokens

namespace DocSite
namespace Json

/-! ### Numbers that are too long -/

def longNumberIn? (written : List Token) : Option Nat :=
  written.findSome? fun token =>
    match token with
    | .longNumber digits => some digits
    | _ => none

def overlongIn? (value : Json) : Option Nat :=
  longNumberIn? (writtenTokens value)

theorem longNumberIn?_append (first second : List Token) :
    longNumberIn? (first ++ second) = (longNumberIn? first).or (longNumberIn? second) :=
  List.findSome?_append

theorem findSome?_cons_or {α β : Type} (found : α → Option β) (first : α) (rest : List α) :
    (first :: rest).findSome? found = (found first).or (rest.findSome? found) := by
  rw [List.findSome?_cons]
  cases found first <;> rfl

theorem overlongIn?_int (value : Int) : overlongIn? (.int value) = overlong? value := by
  unfold overlongIn? longNumberIn?
  rw [writtenTokens, intToken]
  cases overlong? value <;> rfl

theorem longNumberIn?_itemTokens (items : List Json) :
    longNumberIn? (itemTokens items) = items.findSome? overlongIn? := by
  induction items with
  | nil => rfl
  | cons item items ih =>
      rw [findSome?_cons_or, ← ih]
      cases items with
      | nil => exact (Option.or_none).symm
      | cons next items =>
          exact longNumberIn?_append (writtenTokens item) (.comma :: itemTokens (next :: items))

theorem longNumberIn?_fieldTokens (fields : List (JsonKey × Json)) :
    longNumberIn? (fieldTokens fields) = fields.findSome? fun field => overlongIn? field.2 := by
  induction fields with
  | nil => rfl
  | cons field fields ih =>
      rw [findSome?_cons_or, ← ih]
      cases fields with
      | nil => exact (Option.or_none).symm
      | cons next fields =>
          exact longNumberIn?_append (writtenTokens field.2) (.comma :: fieldTokens (next :: fields))

theorem overlongIn?_array (items : List Json) :
    overlongIn? (.array items) = items.findSome? overlongIn? := by
  rw [← longNumberIn?_itemTokens]
  exact (longNumberIn?_append (itemTokens items) [.closeArray]).trans Option.or_none

theorem overlongIn?_object (fields : List (JsonKey × Json)) :
    overlongIn? (.object fields) = fields.findSome? fun field => overlongIn? field.2 := by
  rw [← longNumberIn?_fieldTokens]
  exact (longNumberIn?_append (fieldTokens fields) [.closeObject]).trans Option.or_none

/-! ### Values over several lines -/

theorem isOverlong_eq_false_iff (value : Int) : isOverlong value = false ↔ overlong? value = none := by
  unfold isOverlong overlong?
  rw [decide_eq_false_iff_not, Nat.not_lt]
  split
  · rename_i short
    exact iff_of_true short rfl
  · rename_i long
    exact iff_of_false long nofun

theorem Written.andThen_complete (first next : Written) :
    (first.andThen next).complete = (first.complete && next.complete) := by
  unfold Written.andThen
  cases done : first.complete with
  | true => rfl
  | false => exact done

theorem Written.andThen_text {first : Written} (done : first.complete = true) (next : Written) :
    (first.andThen next).text = first.text ++ next.text := by
  unfold Written.andThen
  rw [if_pos done]

/-- Whether a value with given tokens has been written behind a text: nothing is missing exactly if none of its
integers is too long, and then the tokens are spelled behind the text. -/
structure Tells (front : Text) (written : Written) (expected : List Token) : Prop where
  complete : written.complete = true ↔ longNumberIn? expected = none
  spells : written.complete = true → ∃ text, written.text = front ++ text ∧ Spells text expected

/-- Whether writing has begun with a mark, a text and a value and gone on with something else. -/
structure Begins (mark : Char) (front : Text) (value others written : Written) : Prop where
  complete : written.complete = (value.complete && others.complete)
  text : value.complete = true → written.text = mark :: (front ++ value.text) ++ others.text

theorem begins_andThen (mark : Char) (front : Text) (value others : Written) :
    Begins mark front value others ((Written.mk (mark :: front) true).andThen (value.andThen others)) := by
  constructor
  · rw [Written.andThen_complete, Written.andThen_complete, Bool.true_and]
  · intro done
    rw [Written.andThen_text rfl, Written.andThen_text done, ← List.append_assoc]
    rfl

section Several

variable {level : Nat} {mark : Char}

theorem begins_indentedItems (item : Json) (items : List Json) :
    Begins mark (newLine level) (item.indented level) (indentedItems level ',' items)
      (indentedItems level mark (item :: items)) := by
  cases item with
  | int value =>
      rw [indentedItems, indented]
      cases isOverlong value with
      | true => exact ⟨rfl, nofun⟩
      | false => exact ⟨rfl, fun _ => rfl⟩
  | null => exact begins_andThen ..
  | bool value => exact begins_andThen ..
  | real value => exact begins_andThen ..
  | string text => exact begins_andThen ..
  | unpaired codes => exact begins_andThen ..
  | array items => exact begins_andThen ..
  | object fields => exact begins_andThen ..

theorem begins_indentedFields (field : JsonKey × Json) (fields : List (JsonKey × Json)) :
    Begins mark (newLine level ++ writeScalar (.ofKey field.1) ++ [':', ' ']) (field.2.indented level)
      (indentedFields level ',' fields) (indentedFields level mark (field :: fields)) :=
  begins_andThen ..

section Tokens

variable {front : Text} {value others written : Written} {first last : List Token}

theorem Begins.tells_last (begins : Begins mark front value ⟨[], true⟩ written)
    (own : Tells [] value first) (added : longNumberIn? last = longNumberIn? first)
    (spelled : ∀ text, Spells text first → Spells (front ++ text) last) : Tells [mark] written last := by
  have complete := begins.complete
  rw [Bool.and_true] at complete
  constructor
  · rw [complete, own.complete, added]
  · intro done
    rw [complete] at done
    obtain ⟨text, isText, spells⟩ := own.spells done
    refine ⟨front ++ text, ?_, spelled text spells⟩
    rw [begins.text done, isText, List.append_nil]
    rfl

theorem Begins.tells {rest : List Token} (begins : Begins mark front value others written)
    (own : Tells [] value first) (added : longNumberIn? last = longNumberIn? first)
    (spelled : ∀ text, Spells text first → Spells (front ++ text) last) (further : Tells [','] others rest) :
    Tells [mark] written (last ++ .comma :: rest) := by
  have cut : longNumberIn? (last ++ .comma :: rest) = (longNumberIn? first).or (longNumberIn? rest) :=
    added ▸ longNumberIn?_append last (.comma :: rest)
  constructor
  · rw [begins.complete, Bool.and_eq_true, own.complete, further.complete, cut, Option.or_eq_none_iff]
  · intro done
    rw [begins.complete, Bool.and_eq_true] at done
    obtain ⟨text, isText, spells⟩ := own.spells done.1
    obtain ⟨behind, isBehind, others⟩ := further.spells done.2
    refine ⟨front ++ text ++ ',' :: behind, ?_, (spelled text spells).append_mark isMark_comma others⟩
    rw [begins.text done.1, isText, isBehind]
    rfl

end Tokens

theorem tells_indentedItems (item : Json) (items : List Json)
    (each : ∀ other ∈ item :: items, Tells [] (other.indented level) (writtenTokens other)) :
    Tells [mark] (indentedItems level mark (item :: items)) (itemTokens (item :: items)) := by
  have spelled (text : Text) (item : Json) (spells : Spells text (writtenTokens item)) :
      Spells (newLine level ++ text) (writtenTokens item) :=
    spells.behind_newLine level
  induction items generalizing item mark with
  | nil =>
      exact (begins_indentedItems item []).tells_last (each item List.mem_cons_self) rfl fun text =>
        spelled text item
  | cons next items ih =>
      exact (begins_indentedItems item (next :: items)).tells (each item List.mem_cons_self) rfl
        (fun text => spelled text item) (ih next fun other member => each other (List.mem_cons_of_mem _ member))

theorem tells_indentedFields (field : JsonKey × Json) (fields : List (JsonKey × Json))
    (named : ∀ other ∈ field :: fields, ∃ name, other.1 = .text name)
    (each : ∀ other ∈ field :: fields, Tells [] (other.2.indented level) (writtenTokens other.2)) :
    Tells [mark] (indentedFields level mark (field :: fields)) (fieldTokens (field :: fields)) := by
  have spelled (text : Text) (field : JsonKey × Json) (named : ∃ name, field.1 = .text name)
      (spells : Spells text (writtenTokens field.2)) :
      Spells (newLine level ++ writeScalar (.ofKey field.1) ++ [':', ' '] ++ text)
        (.string (codesOf field.1) :: .colon :: writtenTokens field.2) := by
    have whole := ((spells_key named).append_mark isMark_colon spells.behind_space).behind_newLine level
    simp only [List.append_assoc, List.cons_append, List.nil_append] at whole ⊢
    exact whole
  induction fields generalizing field mark with
  | nil =>
      exact (begins_indentedFields field []).tells_last (each field List.mem_cons_self) rfl fun text =>
        spelled text field (named field List.mem_cons_self)
  | cons next fields ih =>
      have others := @ih ',' next (fun other member => named other (List.mem_cons_of_mem _ member))
        fun other member => each other (List.mem_cons_of_mem _ member)
      have whole : Tells [mark] (indentedFields level mark (field :: next :: fields))
          ((.string (codesOf field.1) :: .colon :: writtenTokens field.2) ++
            .comma :: fieldTokens (next :: fields)) :=
        (begins_indentedFields field (next :: fields)).tells (each field List.mem_cons_self) rfl
          (fun text => spelled text field (named field List.mem_cons_self)) others
      exact whole

/-- The closing mark of a container is written on a line of its own. -/
theorem Tells.enclosed {inside : Written} {opener closer : Char} {first last : Token} {written : List Token}
    (tells : Tells [opener] inside written) (opens : IsMark opener first) (closes : IsMark closer last)
    (noNumber : longNumberIn? (first :: (written ++ [last])) = longNumberIn? written) :
    Tells [] (inside.andThen ⟨newLine level ++ [closer], true⟩) (first :: (written ++ [last])) := by
  constructor
  · rw [Written.andThen_complete, Bool.and_true, tells.complete, noNumber]
  · intro done
    rw [Written.andThen_complete, Bool.and_true] at done
    obtain ⟨text, isText, spells⟩ := tells.spells done
    refine ⟨_, ?_, spells.enclosed_newLine opens closes level⟩
    rw [Written.andThen_text done, isText, ← List.append_assoc]
    rfl

end Several

theorem tells_whole {text : Text} {written : List Token} (short : longNumberIn? written = none)
    (spells : Spells text written) : Tells [] ⟨text, true⟩ written :=
  ⟨iff_of_true rfl short, fun _ => ⟨text, rfl, spells⟩⟩

theorem tells_indented {depth : Nat} {value : Json} (exact : Exact depth value) (level : Nat) :
    Tells [] (value.indented level) (writtenTokens value) := by
  have behind (first last : Token) (written : List Token)
      (opens : longNumberIn? [first] = none) (closes : longNumberIn? [last] = none) :
      longNumberIn? (first :: (written ++ [last])) = longNumberIn? written := by
    rw [← List.singleton_append, longNumberIn?_append, longNumberIn?_append, opens, closes, Option.none_or,
      Option.or_none]
  induction exact generalizing level with
  | null => exact tells_whole rfl Spells.null
  | bool value => exact tells_whole rfl (Spells.bool value)
  | int value =>
      have tokens : longNumberIn? (writtenTokens (.int value)) = overlong? value := overlongIn?_int value
      rw [indented]
      cases long : isOverlong value with
      | true =>
          refine ⟨iff_of_false nofun fun short => ?_, nofun⟩
          rw [tokens, ← isOverlong_eq_false_iff, long] at short
          cases short
      | false => exact tells_whole (tokens.trans ((isOverlong_eq_false_iff value).mp long)) (Spells.int value)
  | string text => exact tells_whole rfl (Spells.string text)
  | @array _ items _ ih =>
      cases items with
      | nil => exact tells_whole rfl (Spells.nil.enclosed isMark_openArray isMark_closeArray)
      | cons item items =>
          exact (tells_indentedItems item items fun other member =>
            ih other member (level + 1)).enclosed isMark_openArray isMark_closeArray (behind _ _ _ rfl rfl)
  | @object _ fields _ named _ ih =>
      cases fields with
      | nil => exact tells_whole rfl (Spells.nil.enclosed isMark_openObject isMark_closeObject)
      | cons field fields =>
          exact (tells_indentedFields field fields named fun other member =>
            ih other member (level + 1)).enclosed isMark_openObject isMark_closeObject (behind _ _ _ rfl rfl)

def unlessOverlong (long : Option Nat) (further : Except JsonError Json) : Except JsonError Json :=
  match long with
  | some digits => .error (.tooManyDigits digits)
  | none => further

theorem unlessOverlong_or (first second : Option Nat) (further : Except JsonError Json) :
    unlessOverlong (first.or second) further = unlessOverlong first (unlessOverlong second further) := by
  cases first <;> rfl

/-! ### Reading the tokens -/

/-- A value that is read wherever it is expected, at a depth that leaves room for its containers. -/
def ReadsBack (depth : Nat) (value : Json) : Prop :=
  ∀ stack rest, stack.length + depth ≤ nestingLimit →
    read .value stack (writtenTokens value ++ rest) =
      unlessOverlong (overlongIn? value) (read (.separator value) stack rest)

theorem exists_cons_writtenTokens (value : Json) :
    ∃ first rest, writtenTokens value = first :: rest ∧ first ≠ .closeArray := by
  cases value with
  | int value =>
      refine ⟨_, [], rfl, ?_⟩
      unfold intToken
      cases overlong? value with
      | none => exact Token.noConfusion
      | some digits => exact Token.noConfusion
  | null => exact ⟨_, _, rfl, Token.noConfusion⟩
  | bool value => exact ⟨_, _, rfl, Token.noConfusion⟩
  | real value => exact ⟨_, _, rfl, Token.noConfusion⟩
  | string text => exact ⟨_, _, rfl, Token.noConfusion⟩
  | unpaired codes => exact ⟨_, _, rfl, Token.noConfusion⟩
  | array items => exact ⟨_, _, rfl, Token.noConfusion⟩
  | object fields => exact ⟨_, _, rfl, Token.noConfusion⟩

/-- Behind an opening bracket the first item is read like any other. -/
theorem read_valueOrClose {first : Token} (noClose : first ≠ .closeArray) (stack : List Frame)
    (rest : List Token) :
    read .valueOrClose stack (first :: rest) = read .value (.array [] :: stack) (first :: rest) := by
  cases first with
  | closeArray => exact absurd rfl noClose
  | openObject => rfl
  | closeObject => rfl
  | openArray => rfl
  | colon => rfl
  | comma => rfl
  | string codes => rfl
  | atom value => rfl
  | longNumber digits => rfl
  | invalid => rfl

theorem readsBack_int (depth : Nat) (value : Int) : ReadsBack depth (.int value) := by
  intro stack rest _
  rw [overlongIn?_int, writtenTokens, intToken]
  cases overlong? value <;> rfl

theorem readsBack_string (depth : Nat) (text : Text) : ReadsBack depth (.string text) := by
  intro stack rest _
  change read (.separator (.ofCodes (text.map Char.toNat))) stack rest = _
  rw [ofCodes_toNat]
  rfl

theorem setField_append {key : JsonKey} {done : List (JsonKey × Json)} (fresh : key ∉ done.map Prod.fst)
    (value : Json) : setField key value done = done ++ [(key, value)] := by
  induction done with
  | nil => rfl
  | cons field done ih =>
      rw [List.map_cons, List.mem_cons, not_or] at fresh
      rw [setField, if_neg (Ne.symm fresh.1), ih fresh.2, List.cons_append]

theorem setField_distinct {done : List (JsonKey × Json)} {field : JsonKey × Json} {fields : List (JsonKey × Json)}
    (distinct : ((done ++ field :: fields).map Prod.fst).Nodup) :
    setField field.1 field.2 done = done ++ [field] := by
  rw [List.map_append, List.map_cons, List.nodup_append] at distinct
  obtain ⟨-, -, apart⟩ := distinct
  exact setField_append (fun member => apart field.1 member field.1 List.mem_cons_self rfl) field.2

/-- A key that is written is read as the key of the next value. -/
theorem read_key (done : List (JsonKey × Json)) (stack : List Frame) {key : JsonKey}
    (named : ∃ name, key = .text name) (rest : List Token) :
    read (.key done) stack (.string (codesOf key) :: .colon :: rest) =
      read .value (.object done key :: stack) rest := by
  obtain ⟨name, rfl⟩ := named
  change read .value (.object done (.ofCodes (name.map Char.toNat)) :: stack) rest = _
  rw [keyOfCodes_toNat]

section Items

variable {depth : Nat} {stack : List Frame} (room : stack.length + 1 + depth ≤ nestingLimit)
include room

/-- The items of an array from the first one on, behind those that have been read. -/
theorem read_itemTokens (item : Json) (items : List Json)
    (each : ∀ other ∈ item :: items, ReadsBack depth other) (done : List Json) (rest : List Token) :
    read .value (.array done :: stack) (itemTokens (item :: items) ++ .closeArray :: rest) =
      unlessOverlong ((item :: items).findSome? overlongIn?)
        (read (.separator (.array (done ++ item :: items))) stack rest) := by
  induction items generalizing item done with
  | nil =>
      have own := each item List.mem_cons_self (.array done :: stack) (.closeArray :: rest) room
      rw [findSome?_cons_or, List.findSome?_nil, Option.or_none]
      exact own
  | cons next items ih =>
      have own := each item List.mem_cons_self (.array done :: stack)
        (.comma :: (itemTokens (next :: items) ++ .closeArray :: rest)) room
      have further := ih next (fun other member => each other (List.mem_cons_of_mem _ member))
        (done ++ [item])
      rw [List.append_assoc, List.singleton_append] at further
      rw [findSome?_cons_or, unlessOverlong_or, ← further]
      change read .value (.array done :: stack)
        ((writtenTokens item ++ .comma :: itemTokens (next :: items)) ++ .closeArray :: rest) = _
      rw [List.append_assoc]
      exact own

/-- The fields of an object from the first one on, behind those that have been read. -/
theorem read_fieldTokens (field : JsonKey × Json) (fields : List (JsonKey × Json))
    (named : ∀ other ∈ field :: fields, ∃ name, other.1 = .text name)
    (each : ∀ other ∈ field :: fields, ReadsBack depth other.2) (done : List (JsonKey × Json))
    (distinct : ((done ++ field :: fields).map Prod.fst).Nodup) (rest : List Token) :
    read (.key done) stack (fieldTokens (field :: fields) ++ .closeObject :: rest) =
      unlessOverlong ((field :: fields).findSome? fun other => overlongIn? other.2)
        (read (.separator (.object (done ++ field :: fields))) stack rest) := by
  induction fields generalizing field done with
  | nil =>
      have own := each field List.mem_cons_self (.object done field.1 :: stack) (.closeObject :: rest) room
      rw [findSome?_cons_or, List.findSome?_nil, Option.or_none]
      change read (.key done) stack (.string (codesOf field.1) :: .colon ::
        (writtenTokens field.2 ++ .closeObject :: rest)) = _
      rw [read_key _ _ (named field List.mem_cons_self), own]
      change unlessOverlong _ (read (.separator (.object (setField field.1 field.2 done))) stack rest) = _
      rw [setField_distinct distinct]
  | cons next fields ih =>
      have own := each field List.mem_cons_self (.object done field.1 :: stack)
        (.comma :: (fieldTokens (next :: fields) ++ .closeObject :: rest)) room
      have further := ih next (fun other member => named other (List.mem_cons_of_mem _ member))
        (fun other member => each other (List.mem_cons_of_mem _ member)) (done ++ [field]) (by rw [List.append_assoc]; exact distinct)
      rw [List.append_assoc, List.singleton_append] at further
      rw [findSome?_cons_or, unlessOverlong_or, ← further]
      change read (.key done) stack (.string (codesOf field.1) :: .colon ::
        (writtenTokens field.2 ++ .comma :: fieldTokens (next :: fields) ++ .closeObject :: rest)) = _
      rw [List.append_assoc, read_key _ _ (named field List.mem_cons_self), List.cons_append, own]
      change unlessOverlong _ (read (.key (setField field.1 field.2 done)) stack _) = _
      rw [setField_distinct distinct]

end Items

/-- The values that are written are read back. -/
theorem Exact.readsBack {depth : Nat} {value : Json} (exact : Exact depth value) : ReadsBack depth value := by
  induction exact with
  | null => exact fun _ _ _ => rfl
  | bool value => exact fun _ _ _ => rfl
  | int value => exact readsBack_int _ value
  | string text => exact readsBack_string _ text
  | @array depth items _ each =>
      intro stack rest room
      have allowed : stack.length < nestingLimit := by omega
      rw [overlongIn?_array]
      change (if stack.length < nestingLimit then
        read .valueOrClose stack ((itemTokens items ++ [.closeArray]) ++ rest) else _) = _
      rw [if_pos allowed, List.append_assoc, List.singleton_append]
      cases items with
      | nil => rfl
      | cons item items =>
          have inside : stack.length + 1 + depth ≤ nestingLimit := by omega
          have whole := read_itemTokens inside item items each [] rest
          obtain ⟨first, others, begins, noClose⟩ : ∃ first others,
              itemTokens (item :: items) = first :: others ∧ first ≠ .closeArray := by
            obtain ⟨first, others, begins, noClose⟩ := exists_cons_writtenTokens item
            cases items with
            | nil => exact ⟨first, others, begins, noClose⟩
            | cons next items =>
                refine ⟨first, others ++ .comma :: itemTokens (next :: items), ?_, noClose⟩
                rw [← List.cons_append, ← begins]
                rfl
          rw [begins, List.cons_append, read_valueOrClose noClose, ← List.cons_append, ← begins]
          exact whole
  | @object depth fields distinct named _ each =>
      intro stack rest room
      have allowed : stack.length < nestingLimit := by omega
      rw [overlongIn?_object]
      change (if stack.length < nestingLimit then
        read .keyOrClose stack ((fieldTokens fields ++ [.closeObject]) ++ rest) else _) = _
      rw [if_pos allowed, List.append_assoc, List.singleton_append]
      cases fields with
      | nil => rfl
      | cons field fields =>
          have inside : stack.length + 1 + depth ≤ nestingLimit := by omega
          have whole := read_fieldTokens inside field fields named each [] distinct rest
          rw [List.nil_append] at whole
          cases fields with
          | nil => exact whole
          | cons next fields => exact whole

/-! ### Whole texts -/

theorem parse_of_spells {value : Json} {text : Text} (exact : Exact nestingLimit value)
    (spells : Spells text (writtenTokens value)) :
    parse text = unlessOverlong (overlongIn? value) (.ok value) := by
  have cut := spells [] stops_nil
  have back := exact.readsBack [] [] (by decide)
  rw [List.append_nil] at cut back
  unfold parse
  rw [cut]
  change read .value [] (writtenTokens value ++ []) = _
  rw [List.append_nil]
  exact back

/-- A value that has been written on one line is read back. -/
theorem parse_compact {value : Json} (exact : Exact nestingLimit value) :
    parse value.compact = unlessOverlong (overlongIn? value) (.ok value) :=
  parse_of_spells exact (spells_compact exact)

/-- A value that is written completely over several lines is read back, and it is unless an integer in it is
too long. -/
theorem parse_indented {value : Json} (exact : Exact nestingLimit value) (level : Nat) :
    ((value.indented level).complete = true ↔ overlongIn? value = none) ∧
      ((value.indented level).complete = true → parse (value.indented level).text = .ok value) := by
  have tells := tells_indented exact level
  refine ⟨tells.complete, fun done => ?_⟩
  obtain ⟨text, isText, spells⟩ := tells.spells done
  have short : overlongIn? value = none := tells.complete.mp done
  rw [isText, List.nil_append, parse_of_spells exact spells, short]
  rfl

end Json
end DocSite
