/-
Texts in units.

The two encodings with marks of an order of bytes write a character as units: one or two of two bytes, or one of
four. Bytes are read in such an encoding exactly if they are the bytes of the units of a text, and as this text.
-/
import DocSite.Proofs.Files.Encoding

namespace DocSite

/-! ### Bytes of a unit -/

theorem toUInt8_eq {number : Nat} {byte : UInt8} (same : number = byte.toNat) : number.toUInt8 = byte := by
  rw [same]
  exact UInt8.ofNat_toNat

namespace ByteOrder

def arrange (order : ByteOrder) (bytes : Bytes) : Bytes :=
  match order with
  | .littleEnd => bytes
  | .bigEnd => bytes.reverse

def pair (order : ByteOrder) (unit : Nat) : Bytes :=
  order.arrange [(unit % 0x100).toUInt8, (unit / 0x100).toUInt8]

def quadruple (order : ByteOrder) (unit : Nat) : Bytes :=
  order.arrange [(unit % 0x100).toUInt8, (unit / 0x100 % 0x100).toUInt8,
    (unit / 0x10000 % 0x100).toUInt8, (unit / 0x1000000).toUInt8]

theorem arrange_arrange (order : ByteOrder) (bytes : Bytes) : order.arrange (order.arrange bytes) = bytes := by
  cases order with
  | littleEnd => rfl
  | bigEnd => exact List.reverse_reverse bytes

theorem value_arrange (order : ByteOrder) (bytes : Bytes) :
    order.value (order.arrange bytes) = littleEnd.value bytes := by
  cases order with
  | littleEnd => rfl
  | bigEnd => exact List.foldl_reverse

theorem value_eq (order : ByteOrder) (bytes : Bytes) :
    order.value bytes = littleEnd.value (order.arrange bytes) := by
  rw [← order.value_arrange, arrange_arrange]

theorem value_nil : littleEnd.value [] = 0 := rfl

theorem value_cons (byte : UInt8) (bytes : Bytes) :
    littleEnd.value (byte :: bytes) = littleEnd.value bytes * 0x100 + byte.toNat := rfl

theorem value_pair (order : ByteOrder) {unit : Nat} (small : unit < 0x10000) :
    order.value (order.pair unit) = unit := by
  rw [pair, value_arrange, value_cons, value_cons, value_nil, toNat_toUInt8 (by omega), toNat_toUInt8 (by omega)]
  omega

theorem value_quadruple (order : ByteOrder) {unit : Nat} (small : unit < 0x100000000) :
    order.value (order.quadruple unit) = unit := by
  rw [quadruple, value_arrange, value_cons, value_cons, value_cons, value_cons, value_nil,
    toNat_toUInt8 (by omega), toNat_toUInt8 (by omega), toNat_toUInt8 (by omega), toNat_toUInt8 (by omega)]
  omega

/-- The bytes of the number that two bytes stand for are these bytes. -/
theorem pair_value (order : ByteOrder) (first second : UInt8) :
    order.pair (order.value [first, second]) = [first, second] := by
  have shape : ∃ low high, order.arrange [first, second] = [low, high] := by
    cases order <;> exact ⟨_, _, rfl⟩
  obtain ⟨low, high, shape⟩ := shape
  have lowFits := low.toNat_lt
  have highFits := high.toNat_lt
  rw [value_eq, shape, value_cons, value_cons, value_nil, pair, toUInt8_eq (show _ = low.toNat by omega),
    toUInt8_eq (show _ = high.toNat by omega), ← shape, arrange_arrange]

theorem value_lt (order : ByteOrder) (first second : UInt8) : order.value [first, second] < 0x10000 := by
  have firstFits := first.toNat_lt
  have secondFits := second.toNat_lt
  cases order with
  | littleEnd =>
      rw [value_cons, value_cons, value_nil]
      omega
  | bigEnd =>
      rw [value_eq, arrange, List.reverse_cons, List.reverse_singleton, List.singleton_append, value_cons,
        value_cons, value_nil]
      omega

theorem quadruple_value (order : ByteOrder) (first second third fourth : UInt8) :
    order.quadruple (order.value [first, second, third, fourth]) = [first, second, third, fourth] := by
  have shape : ∃ b₀ b₁ b₂ b₃, order.arrange [first, second, third, fourth] = [b₀, b₁, b₂, b₃] := by
    cases order <;> exact ⟨_, _, _, _, rfl⟩
  obtain ⟨b₀, b₁, b₂, b₃, shape⟩ := shape
  have fits₀ := b₀.toNat_lt
  have fits₁ := b₁.toNat_lt
  have fits₂ := b₂.toNat_lt
  have fits₃ := b₃.toNat_lt
  rw [value_eq, shape, value_cons, value_cons, value_cons, value_cons, value_nil, quadruple,
    toUInt8_eq (show _ = b₀.toNat by omega), toUInt8_eq (show _ = b₁.toNat by omega),
    toUInt8_eq (show _ = b₂.toNat by omega), toUInt8_eq (show _ = b₃.toNat by omega), ← shape, arrange_arrange]

end ByteOrder

/-! ### Units of bytes -/

section Cutting

variable {order : ByteOrder} {units : List Nat} {bytes : Bytes}

theorem pairs?_flatMap (small : ∀ unit ∈ units, unit < 0x10000) :
    pairs? order (units.flatMap order.pair) = some units := by
  induction units with
  | nil => rfl
  | cons unit units ih =>
      have shape : ∃ first second, order.pair unit = [first, second] := by
        cases order <;> exact ⟨_, _, rfl⟩
      obtain ⟨first, second, shape⟩ := shape
      rw [List.flatMap_cons, shape, List.cons_append, List.singleton_append, pairs?,
        ih fun other member => small other (List.mem_cons_of_mem _ member), ← shape,
        order.value_pair (small unit List.mem_cons_self), Option.map_some]

theorem eq_of_pairs? (cut : pairs? order bytes = some units) :
    bytes = units.flatMap order.pair ∧ ∀ unit ∈ units, unit < 0x10000 := by
  fun_induction pairs? order bytes generalizing units with
  | case1 =>
      cases cut
      exact ⟨rfl, fun unit member => nomatch member⟩
  | case2 => cases cut
  | case3 first second rest ih =>
      obtain ⟨further, cutRest, equal⟩ := Option.map_eq_some_iff.mp cut
      obtain ⟨same, small⟩ := ih cutRest
      rw [← equal, List.flatMap_cons, order.pair_value, ← same]
      exact ⟨rfl, List.forall_mem_cons.mpr ⟨order.value_lt first second, small⟩⟩

theorem quadruples?_flatMap (small : ∀ unit ∈ units, unit < 0x100000000) :
    quadruples? order (units.flatMap order.quadruple) = some units := by
  induction units with
  | nil => rfl
  | cons unit units ih =>
      have shape : ∃ first second third fourth, order.quadruple unit = [first, second, third, fourth] := by
        cases order <;> exact ⟨_, _, _, _, rfl⟩
      obtain ⟨first, second, third, fourth, shape⟩ := shape
      rw [List.flatMap_cons, shape, List.cons_append, List.cons_append, List.cons_append,
        List.singleton_append, quadruples?, ih fun other member => small other (List.mem_cons_of_mem _ member),
        ← shape, order.value_quadruple (small unit List.mem_cons_self), Option.map_some]

theorem eq_of_quadruples? (cut : quadruples? order bytes = some units) :
    bytes = units.flatMap order.quadruple := by
  fun_induction quadruples? order bytes generalizing units with
  | case1 =>
      cases cut
      rfl
  | case2 first second third fourth rest ih =>
      obtain ⟨further, cutRest, equal⟩ := Option.map_eq_some_iff.mp cut
      rw [← equal, List.flatMap_cons, order.quadruple_value, ← ih cutRest]
      rfl
  | case3 => cases cut

end Cutting

/-! ### Texts of units -/

theorem charOf?_eq_some_iff {code : Nat} {character : Char} :
    charOf? code = some character ↔ code = character.toNat := by
  constructor
  · intro found
    by_cases valid : code.isValidChar
    · rw [charOf?, dif_pos valid] at found
      cases found
      rfl
    · rw [charOf?, dif_neg valid] at found
      cases found
  · rintro rfl
    exact charOf?_toNat character

theorem mapM_charOf?_eq_some_iff {units : List Nat} {text : Text} :
    units.mapM charOf? = some text ↔ units = text.map Char.toNat := by
  constructor
  · intro found
    induction units generalizing text with
    | nil =>
        cases found
        rfl
    | cons unit units ih =>
        rw [List.mapM_cons] at found
        obtain ⟨character, here, further⟩ := Option.bind_eq_some_iff.mp found
        obtain ⟨rest, there, equal⟩ := Option.bind_eq_some_iff.mp further
        rw [← Option.some.inj equal, List.map_cons, ← ih there, charOf?_eq_some_iff.mp here]
  · rintro rfl
    exact mapM_map_eq_some fun character _ => charOf?_toNat character

open Json (units)

theorem isHighUnit_iff {unit : Nat} : isHighUnit unit = true ↔ 0xd800 ≤ unit ∧ unit ≤ 0xdbff := by
  rw [isHighUnit, Bool.and_eq_true, decide_eq_true_iff, decide_eq_true_iff]

/-- A unit that is no half of a pair stands for a character by itself. -/
theorem utf16Text?_cons {unit : Nat} (single : isHighUnit unit = false) (rest : List Nat) :
    utf16Text? (unit :: rest) =
      (charOf? unit).bind fun character => (utf16Text? rest).map (character :: ·) := by
  cases rest with
  | nil =>
      rw [utf16Text?, utf16Text?]
      cases charOf? unit <;> rfl
  | cons next rest => rw [utf16Text?, single, if_neg Bool.false_ne_true]

theorem pairedChar?_eq_some_iff {high next : Nat} {character : Char} (isHigh : isHighUnit high = true) :
    pairedChar? high next = some character ↔ [high, next] = units character := by
  have valid := toNat_valid character
  rw [isHighUnit_iff] at isHigh
  unfold pairedChar? units
  by_cases low : 0xdc00 ≤ next ∧ next ≤ 0xdfff
  · rw [if_pos low, charOf?_eq_some_iff]
    by_cases one : character.toNat < 0x10000
    · rw [if_pos one]
      constructor
      · intro equal
        omega
      · intro equal
        cases equal
    · rw [if_neg one, List.cons.injEq, List.cons.injEq, and_iff_left (rfl : ([] : List Nat) = [])]
      omega
  · rw [if_neg low]
    constructor
    · intro found
      cases found
    · intro equal
      split at equal
      · cases equal
      · rw [List.cons.injEq, List.cons.injEq] at equal
        omega

theorem units_pair {character : Char} (two : ¬character.toNat < 0x10000) :
    units character =
      [0xd800 + (character.toNat - 0x10000) / 0x400, 0xdc00 + (character.toNat - 0x10000) % 0x400] := by
  rw [units, if_neg two]

theorem utf16Text?_units (character : Char) (rest : List Nat) :
    utf16Text? (units character ++ rest) = (utf16Text? rest).map (character :: ·) := by
  have valid := toNat_valid character
  by_cases one : character.toNat < 0x10000
  · have single : isHighUnit character.toNat = false := by
      rw [← Bool.not_eq_true, isHighUnit_iff]
      omega
    rw [units, if_pos one, List.singleton_append, utf16Text?_cons single, charOf?_toNat, Option.bind_some]
  · have isHigh : isHighUnit (0xd800 + (character.toNat - 0x10000) / 0x400) = true := by
      rw [isHighUnit_iff]
      omega
    have paired := (pairedChar?_eq_some_iff isHigh).mpr (units_pair one).symm
    rw [units_pair one, List.cons_append, List.singleton_append, utf16Text?, if_pos isHigh, paired,
      Option.bind_some]

theorem utf16Text?_flatMap (text : Text) : utf16Text? (text.flatMap units) = some text := by
  induction text with
  | nil => rfl
  | cons character text ih => rw [List.flatMap_cons, utf16Text?_units, ih, Option.map_some]

/-- The unit of a character that takes no second one. -/
theorem units_of_charOf? {unit : Nat} {character : Char} (found : charOf? unit = some character)
    (single : unit < 0x10000) : units character = [unit] := by
  rw [charOf?_eq_some_iff] at found
  rw [units, if_pos (found ▸ single), found]

/-- The units that are read as a text are those of the text. -/
theorem eq_of_utf16Text? {codes : List Nat} {text : Text} (small : ∀ code ∈ codes, code < 0x10000)
    (read : utf16Text? codes = some text) : codes = text.flatMap units := by
  fun_induction utf16Text? codes generalizing text with
  | case1 =>
      cases read
      rfl
  | case2 unit =>
      obtain ⟨character, found, rfl⟩ := Option.map_eq_some_iff.mp read
      rw [List.flatMap_singleton, units_of_charOf? found (small unit List.mem_cons_self)]
  | case3 unit next rest isHigh ih =>
      obtain ⟨character, found, further⟩ := Option.bind_eq_some_iff.mp read
      obtain ⟨more, readRest, rfl⟩ := Option.map_eq_some_iff.mp further
      have smallRest : ∀ code ∈ rest, code < 0x10000 := fun code member =>
        small code (List.mem_cons_of_mem _ (List.mem_cons_of_mem _ member))
      rw [List.flatMap_cons, ← ih smallRest readRest, ← (pairedChar?_eq_some_iff isHigh).mp found]
      rfl
  | case4 unit next rest single ih =>
      obtain ⟨character, found, further⟩ := Option.bind_eq_some_iff.mp read
      obtain ⟨more, readRest, rfl⟩ := Option.map_eq_some_iff.mp further
      have smallRest : ∀ code ∈ next :: rest, code < 0x10000 := fun code member =>
        small code (List.mem_cons_of_mem _ member)
      rw [List.flatMap_cons, ← ih smallRest readRest, units_of_charOf? found (small unit List.mem_cons_self)]
      rfl

/-! ### Encoded texts -/

def encodeUtf16 (order : ByteOrder) (text : Text) : Bytes := (text.flatMap units).flatMap order.pair

def encodeUtf32 (order : ByteOrder) (text : Text) : Bytes := (text.map Char.toNat).flatMap order.quadruple

theorem units_lt {character : Char} {unit : Nat} (member : unit ∈ units character) : unit < 0x10000 := by
  have valid := toNat_valid character
  unfold units at member
  split at member
  · rw [List.mem_singleton] at member
    omega
  · rw [List.mem_cons, List.mem_singleton] at member
    omega

/-- Bytes are read in two-byte units exactly if they encode a text, and as this text. -/
theorem decodeUtf16?_eq_some_iff {order : ByteOrder} {bytes : Bytes} {text : Text} :
    decodeUtf16? order bytes = some text ↔ bytes = encodeUtf16 order text := by
  unfold decodeUtf16? encodeUtf16
  constructor
  · intro decoded
    obtain ⟨codes, cut, read⟩ := Option.bind_eq_some_iff.mp decoded
    obtain ⟨same, small⟩ := eq_of_pairs? cut
    rw [same, ← eq_of_utf16Text? small read]
  · rintro rfl
    have small : ∀ unit ∈ text.flatMap units, unit < 0x10000 := by
      intro unit member
      obtain ⟨character, -, ofCharacter⟩ := List.mem_flatMap.mp member
      exact units_lt ofCharacter
    rw [pairs?_flatMap small, Option.bind_some, utf16Text?_flatMap]

/-- Bytes are read in four-byte units exactly if they encode a text, and as this text. -/
theorem decodeUtf32?_eq_some_iff {order : ByteOrder} {bytes : Bytes} {text : Text} :
    decodeUtf32? order bytes = some text ↔ bytes = encodeUtf32 order text := by
  unfold decodeUtf32? encodeUtf32
  constructor
  · intro decoded
    obtain ⟨codes, cut, read⟩ := Option.bind_eq_some_iff.mp decoded
    rw [eq_of_quadruples? cut, ← mapM_charOf?_eq_some_iff.mp read]
  · rintro rfl
    have small : ∀ unit ∈ text.map Char.toNat, unit < 0x100000000 := by
      intro unit member
      obtain ⟨character, -, rfl⟩ := List.mem_map.mp member
      have valid := toNat_valid character
      omega
    rw [quadruples?_flatMap small, Option.bind_some, mapM_charOf?_eq_some_iff]

end DocSite
