/-
Tokens of written values.

Both layouts of a value have the same tokens. The values are those without fractions and without halves of
surrogate pairs, whose objects have no key twice. A text is described by its tokens in front of whatever ends
a word, so that the tokens of a value are put together from those of its parts.
-/
import DocSite.Proofs.Json.Numbers
import DocSite.Proofs.Json.Strings

namespace DocSite
namespace Json

/-! ### Values -/

/-- Values that are read as they are written, with at most so many containers inside one another. -/
inductive Exact : Nat → Json → Prop where
  | null {depth : Nat} : Exact depth .null
  | bool {depth : Nat} (value : Bool) : Exact depth (.bool value)
  | int {depth : Nat} (value : Int) : Exact depth (.int value)
  | string {depth : Nat} (text : Text) : Exact depth (.string text)
  | array {depth : Nat} {items : List Json} (exact : ∀ item ∈ items, Exact depth item) :
      Exact (depth + 1) (.array items)
  | object {depth : Nat} {fields : List (JsonKey × Json)} (distinct : (fields.map Prod.fst).Nodup)
      (named : ∀ field ∈ fields, ∃ name, field.1 = .text name)
      (exact : ∀ field ∈ fields, Exact depth field.2) : Exact (depth + 1) (.object fields)

def intToken (value : Int) : Token :=
  match overlong? value with
  | some digits => .longNumber digits
  | none => .atom (.int value)

def codesOf : JsonKey → List Nat
  | .text name => name.map Char.toNat
  | .unpaired codes => codes

mutual

def writtenTokens : Json → List Token
  | .null => [.atom .null]
  | .bool value => [.atom (.bool value)]
  | .int value => [intToken value]
  | .real value => [.atom (.real value)]
  | .string text => [.string (text.map Char.toNat)]
  | .unpaired codes => [.string codes]
  | .array items => .openArray :: (itemTokens items ++ [.closeArray])
  | .object fields => .openObject :: (fieldTokens fields ++ [.closeObject])

def itemTokens : List Json → List Token
  | [] => []
  | [item] => writtenTokens item
  | item :: rest => writtenTokens item ++ .comma :: itemTokens rest

def fieldTokens : List (JsonKey × Json) → List Token
  | [] => []
  | [(key, value)] => .string (codesOf key) :: .colon :: writtenTokens value
  | (key, value) :: rest =>
      .string (codesOf key) :: .colon :: (writtenTokens value ++ .comma :: fieldTokens rest)

end

/-! ### Tokens of written values -/

/-- A text in front of which a bare word ends. -/
def Stops (rest : Text) : Prop :=
  ∀ read, tokens (.bare read) rest = atomToken read.reverse :: tokens .between rest

/-- A text that has given tokens wherever it stands in front of the end of a word. -/
def Spells (text : Text) (written : List Token) : Prop :=
  ∀ rest, Stops rest → tokens .between (text ++ rest) = written ++ tokens .between rest

structure IsMark (mark : Char) (token : Token) : Prop where
  noGap : isGap mark = false
  noQuote : mark ≠ '"'
  noAtom : isAtomChar mark = false
  punctuates : punctuation? mark = some token

theorem isMark_comma : IsMark ',' .comma := ⟨rfl, by decide, rfl, rfl⟩

theorem isMark_colon : IsMark ':' .colon := ⟨rfl, by decide, rfl, rfl⟩

theorem stops_nil : Stops [] := fun _ => rfl

section Marks

variable {mark : Char} {token : Token} (isMark : IsMark mark token)
include isMark

theorem IsMark.tokens (rest : Text) : tokens .between (mark :: rest) = token :: tokens .between rest := by
  rw [Json.tokens, isMark.noGap, if_neg Bool.false_ne_true, if_neg isMark.noQuote, isMark.noAtom,
    if_neg Bool.false_ne_true, isMark.punctuates]

theorem IsMark.stops (rest : Text) : Stops (mark :: rest) := by
  intro read
  rw [isMark.tokens, Json.tokens, isMark.noAtom, if_neg Bool.false_ne_true, isMark.noGap,
    if_neg Bool.false_ne_true, isMark.punctuates]

theorem Spells.behind_mark {text : Text} {written : List Token} (spells : Spells text written) :
    Spells (mark :: text) (token :: written) := by
  intro rest stops
  rw [List.cons_append, isMark.tokens, spells rest stops, List.cons_append]

theorem Spells.append_mark {front text : Text} {first written : List Token} (before : Spells front first)
    (behind : Spells text written) : Spells (front ++ mark :: text) (first ++ token :: written) := by
  intro rest stops
  rw [List.append_assoc, List.cons_append, before _ (isMark.stops _), isMark.tokens, behind rest stops,
    List.append_assoc, List.cons_append]

end Marks

theorem tokens_gap {gap : Char} (isGap : isGap gap = true) (rest : Text) :
    tokens .between (gap :: rest) = tokens .between rest := by
  rw [tokens, isGap, if_pos rfl]

theorem stops_gap {gap : Char} (isGap : isGap gap = true) (rest : Text) : Stops (gap :: rest) := by
  have noAtom : isAtomChar gap = false := by
    simp only [Json.isGap, Bool.or_eq_true, beq_iff_eq] at isGap
    rcases isGap with ((rfl | rfl) | rfl) | rfl <;> rfl
  intro read
  rw [tokens_gap isGap, tokens, noAtom, if_neg Bool.false_ne_true, isGap, if_pos rfl]

namespace Spells

theorem nil : Spells [] [] := fun _ _ => rfl

theorem behind_gaps {text : Text} {written : List Token} (spells : Spells text written) (gaps : Text)
    (areGaps : ∀ gap ∈ gaps, isGap gap = true) : Spells (gaps ++ text) written := by
  intro rest stops
  induction gaps with
  | nil => exact spells rest stops
  | cons gap gaps ih =>
      rw [List.cons_append, List.cons_append, tokens_gap (areGaps gap List.mem_cons_self)]
      exact ih fun other member => areGaps other (List.mem_cons_of_mem _ member)

theorem string (text : Text) : Spells (writeString text) [.string (text.map Char.toNat)] :=
  fun rest _ => tokens_writeString text rest

theorem word {word : Text} (filled : word ≠ []) (atoms : ∀ character ∈ word, isAtomChar character = true) :
    Spells word [atomToken word] := by
  have bare (word read rest : Text) (atoms : ∀ character ∈ word, isAtomChar character = true) :
      tokens (.bare read) (word ++ rest) = tokens (.bare (word.reverse ++ read)) rest := by
    induction word generalizing read with
    | nil => rfl
    | cons character word ih =>
        rw [List.cons_append, tokens, atoms character List.mem_cons_self, if_pos rfl,
          ih (character :: read) fun other member => atoms other (List.mem_cons_of_mem _ member),
          List.reverse_cons, List.append_assoc, List.singleton_append]
  intro rest stops
  obtain ⟨first, others, begins⟩ := List.exists_cons_of_ne_nil filled
  have isAtom := atoms first (by rw [begins]; exact List.mem_cons_self)
  have noGap : isGap first = false := by
    cases gap : isGap first with
    | false => rfl
    | true =>
        simp only [isGap, Bool.or_eq_true, beq_iff_eq] at gap
        rcases gap with ((rfl | rfl) | rfl) | rfl <;> cases isAtom
  have noQuote : first ≠ '"' := by
    rintro rfl
    cases isAtom
  have started : tokens .between (word ++ rest) = tokens (.bare [first]) (others ++ rest) := by
    rw [begins, List.cons_append, tokens, noGap, if_neg Bool.false_ne_true, if_neg noQuote, isAtom,
      if_pos rfl]
  rw [started, bare others [first] rest fun character member =>
      atoms character (by rw [begins]; exact List.mem_cons_of_mem _ member), stops, begins,
    List.reverse_append, List.reverse_reverse]
  rfl

theorem null : Spells "null".toList [.atom .null] :=
  word (by decide) (List.all_eq_true.mp rfl)

theorem bool (value : Bool) : Spells (writeScalar (.bool value)) [.atom (.bool value)] := by
  cases value with
  | true => exact word (by decide) (List.all_eq_true.mp rfl)
  | false => exact word (by decide) (List.all_eq_true.mp rfl)

theorem int (value : Int) : Spells (Text.ofInt value) [intToken value] := by
  have digit : ∀ character ∈ Text.ofNat value.natAbs, isAtomChar character = true := by
    intro character member
    unfold isAtomChar Char.isAlphanum
    rw [isDigit_ofNat character member, Bool.or_true]
    rfl
  have token : atomToken (Text.ofInt value) = intToken value := atomToken_ofInt value
  rw [← token]
  rcases ofInt_eq value with ⟨written, -⟩ | ⟨written, -⟩
  · rw [written]
    exact word (ofNat_ne_nil _) digit
  · rw [written]
    exact word (List.cons_ne_nil _ _) (List.forall_mem_cons.mpr ⟨rfl, digit⟩)

end Spells

/-! ### One line -/

theorem Spells.behind_space {text : Text} {written : List Token} (spells : Spells text written) :
    Spells (' ' :: text) written :=
  spells.behind_gaps [' '] (List.all_eq_true.mp rfl)

theorem spells_compactItems {items : List Json}
    (each : ∀ item ∈ items, Spells item.compact (writtenTokens item)) :
    Spells (compactItems items) (itemTokens items) := by
  induction items with
  | nil => exact Spells.nil
  | cons item items ih =>
      have own := each item List.mem_cons_self
      have others := ih fun other member => each other (List.mem_cons_of_mem _ member)
      cases items with
      | nil => exact own
      | cons next items => exact own.append_mark isMark_comma others.behind_space

theorem spells_key {key : JsonKey} (named : ∃ name, key = .text name) :
    Spells (writeScalar (.ofKey key)) [.string (codesOf key)] := by
  obtain ⟨name, rfl⟩ := named
  exact Spells.string name

theorem spells_compactFields {fields : List (JsonKey × Json)} (named : ∀ field ∈ fields, ∃ name, field.1 = .text name)
    (each : ∀ field ∈ fields, Spells field.2.compact (writtenTokens field.2)) :
    Spells (compactFields fields) (fieldTokens fields) := by
  induction fields with
  | nil => exact Spells.nil
  | cons field fields ih =>
      have own := (spells_key (named field List.mem_cons_self)).append_mark isMark_colon
        (each field List.mem_cons_self).behind_space
      have others := ih (fun other member => named other (List.mem_cons_of_mem _ member))
        fun other member => each other (List.mem_cons_of_mem _ member)
      cases fields with
      | nil => exact own
      | cons next fields => exact own.append_mark isMark_comma others.behind_space

/-- A container is its opening mark, its tokens and its closing mark. -/
theorem Spells.enclosed {opener closer : Char} {first last : Token} (opens : IsMark opener first)
    (closes : IsMark closer last) {text : Text} {written : List Token} (spells : Spells text written) :
    Spells (opener :: text ++ [closer]) (first :: (written ++ [last])) :=
  (spells.append_mark closes .nil).behind_mark opens

theorem isMark_openArray : IsMark '[' .openArray := ⟨rfl, by decide, rfl, rfl⟩

theorem isMark_closeArray : IsMark ']' .closeArray := ⟨rfl, by decide, rfl, rfl⟩

theorem isMark_openObject : IsMark '\x7b' .openObject := ⟨rfl, by decide, rfl, rfl⟩

theorem isMark_closeObject : IsMark '\x7d' .closeObject := ⟨rfl, by decide, rfl, rfl⟩

theorem spells_compact {depth : Nat} {value : Json} (exact : Exact depth value) :
    Spells value.compact (writtenTokens value) := by
  induction exact with
  | null => exact Spells.null
  | bool value => exact Spells.bool value
  | int value => exact Spells.int value
  | string text => exact Spells.string text
  | array _ ih => exact (spells_compactItems ih).enclosed isMark_openArray isMark_closeArray
  | object _ named _ ih => exact (spells_compactFields named ih).enclosed isMark_openObject isMark_closeObject

/-! ### Several lines -/

theorem isGap_newLine (level : Nat) : ∀ gap ∈ newLine level, isGap gap = true := by
  intro gap member
  rcases List.mem_cons.mp member with rfl | space
  · rfl
  · rw [List.eq_of_mem_replicate space]
    rfl

theorem stops_newLine (level : Nat) (rest : Text) : Stops (newLine level ++ rest) :=
  stops_gap rfl _

theorem Spells.behind_newLine {text : Text} {written : List Token} (spells : Spells text written)
    (level : Nat) : Spells (newLine level ++ text) written :=
  spells.behind_gaps (newLine level) (isGap_newLine level)

/-- The closing mark of a container stands on a line of its own. -/
theorem Spells.enclosed_newLine {opener closer : Char} {first last : Token} (opens : IsMark opener first)
    (closes : IsMark closer last) {text : Text} {written : List Token} (spells : Spells text written)
    (level : Nat) :
    Spells (opener :: text ++ newLine level ++ [closer]) (first :: (written ++ [last])) := by
  have ending : Spells (newLine level ++ [closer]) [last] :=
    (Spells.nil.behind_mark closes).behind_newLine level
  have whole : Spells (text ++ (newLine level ++ [closer])) (written ++ [last]) := by
    intro rest stops
    rw [List.append_assoc, List.append_assoc, spells _ (stops_newLine level _), ← List.append_assoc,
      ending rest stops, List.append_assoc]
  have marked := whole.behind_mark opens
  rw [← List.append_assoc] at marked
  exact marked

end Json
end DocSite
