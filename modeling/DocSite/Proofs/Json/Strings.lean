/-
Written strings.

Between its quotes a character is written as itself, as an escape of one letter, or by its units, of which a
character beyond the first plane has two. Reading gives the units back, and joining the pairs gives the
characters.
-/
import DocSite.Json.Reader
import DocSite.Json.Writer

namespace DocSite

/-- What is written item by item is read back item by item. -/
theorem mapM_map_eq_some {α β : Type} {read? : β → Option α} {write : α → β} {items : List α}
    (each : ∀ item ∈ items, read? (write item) = some item) :
    (items.map write).mapM read? = some items := by
  induction items with
  | nil => rfl
  | cons item items ih =>
      rw [List.map_cons, List.mapM_cons, each item List.mem_cons_self,
        ih fun other member => each other (List.mem_cons_of_mem _ member)]
      rfl

/-! ### Characters and their codes -/

theorem charOf?_toNat (character : Char) : charOf? character.toNat = some character := by
  unfold charOf?
  rw [dif_pos (show character.toNat.isValidChar from character.valid)]
  exact congrArg some (Char.ext rfl)

theorem toNat_valid (character : Char) :
    character.toNat < 0xd800 ∨ 0xdfff < character.toNat ∧ character.toNat < 0x110000 :=
  character.valid

namespace Json

theorem ofCodes_toNat (text : Text) : ofCodes (text.map Char.toNat) = .string text := by
  unfold ofCodes
  rw [mapM_map_eq_some fun character _ => charOf?_toNat character]

theorem keyOfCodes_toNat (name : Text) : JsonKey.ofCodes (name.map Char.toNat) = .text name := by
  unfold JsonKey.ofCodes
  rw [mapM_map_eq_some fun character _ => charOf?_toNat character]

/-! ### Units -/

def units (character : Char) : List Nat :=
  if character.toNat < 0x10000 then [character.toNat]
  else
    [0xd800 + (character.toNat - 0x10000) / 0x400, 0xdc00 + (character.toNat - 0x10000) % 0x400]

theorem joinSurrogates_cons {code : Nat} (noHigh : isHighSurrogate code = false) (rest : List Nat) :
    joinSurrogates (code :: rest) = code :: joinSurrogates rest := by
  cases rest with
  | nil => rfl
  | cons low rest => rw [joinSurrogates, noHigh, Bool.false_and, if_neg Bool.false_ne_true]

theorem joinSurrogates_pair {high low : Nat} (isHigh : isHighSurrogate high = true)
    (isLow : isLowSurrogate low = true) (rest : List Nat) : joinSurrogates (high :: low :: rest) =
      (0x10000 + (high - 0xd800) * 0x400 + (low - 0xdc00)) :: joinSurrogates rest := by
  rw [joinSurrogates, isHigh, isLow, Bool.and_self, if_pos rfl]

theorem joinSurrogates_units (text : Text) :
    joinSurrogates (text.flatMap units) = text.map Char.toNat := by
  induction text with
  | nil => rfl
  | cons character text ih =>
      have valid := toNat_valid character
      rw [List.flatMap_cons, List.map_cons, units]
      by_cases small : character.toNat < 0x10000
      · have noHigh : isHighSurrogate character.toNat = false := by
          simp only [isHighSurrogate, Bool.and_eq_false_iff, decide_eq_false_iff_not]
          omega
        rw [if_pos small, List.singleton_append, joinSurrogates_cons noHigh, ih]
      · have isHigh : isHighSurrogate (0xd800 + (character.toNat - 0x10000) / 0x400) = true := by
          simp only [isHighSurrogate, Bool.and_eq_true, decide_eq_true_eq]
          omega
        have isLow : isLowSurrogate (0xdc00 + (character.toNat - 0x10000) % 0x400) = true := by
          simp only [isLowSurrogate, Bool.and_eq_true, decide_eq_true_eq]
          omega
        have joined : 0x10000 + (0xd800 + (character.toNat - 0x10000) / 0x400 - 0xd800) * 0x400 +
            (0xdc00 + (character.toNat - 0x10000) % 0x400 - 0xdc00) = character.toNat := by omega
        rw [if_neg small, List.cons_append, List.singleton_append, joinSurrogates_pair isHigh isLow, ih,
          joined]

/-! ### Escapes -/

theorem hexDigit?_digitChar : ∀ digit, digit < 16 → hexDigit? (Nat.digitChar digit) = some digit := by
  decide

section Escapes

variable (read : List Nat) (rest : Text)

theorem tokens_code (missing value : Nat) {digit : Nat} (small : digit < 16) :
    tokens (.code read missing value) (Nat.digitChar digit :: rest) =
      if missing ≤ 1 then tokens (.quoted ((value * 16 + digit) :: read)) rest
      else tokens (.code read (missing - 1) (value * 16 + digit)) rest := by
  rw [tokens, hexDigit?_digitChar digit small]

theorem tokens_unitEscape {unit : Nat} (small : unit < 0x10000) :
    tokens (.quoted read) (unitEscape unit ++ rest) = tokens (.quoted (unit :: read)) rest := by
  have digits : Text.hex 4 unit = [Nat.digitChar (unit / 16 / 16 / 16 % 16),
      Nat.digitChar (unit / 16 / 16 % 16), Nat.digitChar (unit / 16 % 16), Nat.digitChar (unit % 16)] := rfl
  have value : (((0 * 16 + unit / 16 / 16 / 16 % 16) * 16 + unit / 16 / 16 % 16) * 16 + unit / 16 % 16) * 16 +
      unit % 16 = unit := by omega
  have begins : tokens (.quoted read) (unitEscape unit ++ rest) =
      tokens (.code read 4 0) (Text.hex 4 unit ++ rest) := rfl
  rw [begins, digits]
  simp only [List.cons_append, List.nil_append]
  rw [tokens_code _ _ _ _ (Nat.mod_lt _ (by decide)), if_neg (by decide),
    tokens_code _ _ _ _ (Nat.mod_lt _ (by decide)), if_neg (by decide),
    tokens_code _ _ _ _ (Nat.mod_lt _ (by decide)), if_neg (by decide),
    tokens_code _ _ _ _ (Nat.mod_lt _ (by decide)), if_pos (by decide), value]

/-- A character that is written is read as its units. -/
theorem tokens_writeChar (character : Char) :
    tokens (.quoted read) (writeChar character ++ rest) =
      tokens (.quoted ((units character).reverse ++ read)) rest := by
  have valid := toNat_valid character
  have short (code : Nat) (same : character.toNat = code) (small : code < 0x10000) :
      (units character).reverse ++ read = code :: read := by
    rw [units, if_pos (by omega), same]
    rfl
  unfold writeChar
  split
  · rename_i same
    rw [short 34 (by rw [same]; rfl) (by decide)]
    rfl
  split
  · rename_i same
    rw [short 92 (by rw [same]; rfl) (by decide)]
    rfl
  split
  · rename_i same
    rw [short 10 (by rw [same]; rfl) (by decide)]
    rfl
  split
  · rename_i same
    rw [short 13 (by rw [same]; rfl) (by decide)]
    rfl
  split
  · rename_i same
    rw [short 9 (by rw [same]; rfl) (by decide)]
    rfl
  dsimp only
  split
  · rename_i same
    rw [short 8 same (by decide)]
    rfl
  split
  · rename_i same
    rw [short 12 same (by decide)]
    rfl
  split
  · rename_i noQuote noEscape _ _ _ _ _ printed
    rw [short character.toNat rfl (by omega), List.singleton_append, tokens, if_neg noQuote,
      if_neg noEscape, if_neg (by omega)]
  split
  · rename_i small
    rw [tokens_unitEscape read rest small, short character.toNat rfl small]
  · rename_i large
    rw [List.append_assoc, tokens_unitEscape _ _ (by omega), tokens_unitEscape _ _ (by omega), units,
      if_neg large]
    rfl

end Escapes

theorem tokens_flatMap_writeChar (text : Text) (read : List Nat) (rest : Text) :
    tokens (.quoted read) (text.flatMap writeChar ++ rest) =
      tokens (.quoted ((text.flatMap units).reverse ++ read)) rest := by
  induction text generalizing read with
  | nil => rfl
  | cons character text ih =>
      rw [List.flatMap_cons, List.append_assoc, tokens_writeChar, ih, List.flatMap_cons,
        List.reverse_append, List.append_assoc]

/-- The token of a written string holds the codes of its characters. -/
theorem tokens_writeString (text rest : Text) : tokens .between (writeString text ++ rest) =
    .string (text.map Char.toNat) :: tokens .between rest := by
  have opened : tokens .between (writeString text ++ rest) =
      tokens (.quoted []) (text.flatMap writeChar ++ '"' :: rest) := by
    unfold writeString
    rw [List.cons_append, List.cons_append, List.append_assoc]
    rfl
  have closed (read : List Nat) : tokens (.quoted read) ('"' :: rest) =
      .string (joinSurrogates read.reverse) :: tokens .between rest := rfl
  rw [opened, tokens_flatMap_writeChar, closed, List.append_nil, List.reverse_reverse,
    joinSurrogates_units]

end Json
end DocSite
