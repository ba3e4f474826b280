/-
Encoded texts.

The bytes of a character are read back as the character: the first byte announces how many bytes follow and
bounds the second one, and the bounds hold since the character is none of the halves of surrogate pairs and
is not written in a longer form than it needs.
-/
import DocSite.Files.Encoding
import DocSite.Proofs.Json.Strings

namespace DocSite

theorem toNat_toUInt8 {byte : Nat} (small : byte < 256) : byte.toUInt8.toNat = byte :=
  UInt8.toNat_ofNat_of_lt small

section Bytes

variable (rest : Bytes)

theorem utf8Text?_start {byte : Nat} {started : Utf8Partial} (small : byte < 256)
    (starts : utf8Start? byte = some (.inr started)) :
    utf8Text? none (byte.toUInt8 :: rest) = utf8Text? (some started) rest := by
  rw [utf8Text?, toNat_toUInt8 small, starts]

/-- A byte in its bounds that is not the last one of its sequence. -/
theorem utf8Text?_middle {byte value missing low high : Nat} (small : byte < 256) (more : 1 < missing)
    (above : low ≤ byte) (below : byte ≤ high) :
    utf8Text? (some ⟨value, missing, low, high⟩) (byte.toUInt8 :: rest) =
      utf8Text? (some ⟨value * 0x40 + (byte - 0x80), missing - 1, 0x80, 0xbf⟩) rest := by
  rw [utf8Text?, toNat_toUInt8 small]
  dsimp only
  rw [if_pos ⟨above, below⟩, if_neg (Nat.not_le.mpr more)]

/-- The last byte of a sequence gives the character. -/
theorem utf8Text?_last (character : Char) {byte value low high : Nat} (small : byte < 256)
    (above : low ≤ byte) (below : byte ≤ high)
    (whole : value * 0x40 + (byte - 0x80) = character.toNat) :
    utf8Text? (some ⟨value, 1, low, high⟩) (byte.toUInt8 :: rest) =
      (utf8Text? none rest).map (character :: ·) := by
  rw [utf8Text?, toNat_toUInt8 small]
  dsimp only
  rw [if_pos ⟨above, below⟩, if_pos (Nat.le_refl 1), whole, charOf?_toNat, Option.bind_some]

end Bytes

/-- What the first byte of a long character announces. -/
theorem utf8Start?_three {code : Nat} (large : 0x800 ≤ code) (small : code < 0x10000)
    (valid : code < 0xd800 ∨ 0xdfff < code) : ∃ low high,
      utf8Start? (0xe0 + code / 0x1000) = some (.inr ⟨code / 0x1000, 2, low, high⟩) ∧
        low ≤ 0x80 + code / 0x40 % 0x40 ∧ 0x80 + code / 0x40 % 0x40 ≤ high := by
  unfold utf8Start?
  rw [if_neg (by omega), if_neg (by omega)]
  by_cases first : 0xe0 + code / 0x1000 = 0xe0
  · rw [if_pos first, show code / 0x1000 = 0 by omega]
    exact ⟨0xa0, 0xbf, rfl, by omega, by omega⟩
  · rw [if_neg first]
    by_cases surrogate : 0xe0 + code / 0x1000 = 0xed
    · rw [if_pos surrogate, show code / 0x1000 = 0xd by omega]
      exact ⟨0x80, 0x9f, rfl, by omega, by omega⟩
    · rw [if_neg surrogate, if_pos (by omega), show 0xe0 + code / 0x1000 - 0xe0 = code / 0x1000 by omega]
      exact ⟨0x80, 0xbf, rfl, by omega, by omega⟩

theorem utf8Start?_four {code : Nat} (large : 0x10000 ≤ code) (small : code < 0x110000) : ∃ low high,
      utf8Start? (0xf0 + code / 0x40000) = some (.inr ⟨code / 0x40000, 3, low, high⟩) ∧
        low ≤ 0x80 + code / 0x1000 % 0x40 ∧ 0x80 + code / 0x1000 % 0x40 ≤ high := by
  unfold utf8Start?
  rw [if_neg (by omega), if_neg (by omega), if_neg (by omega), if_neg (by omega), if_neg (by omega)]
  by_cases first : 0xf0 + code / 0x40000 = 0xf0
  · rw [if_pos first, show code / 0x40000 = 0 by omega]
    exact ⟨0x90, 0xbf, rfl, by omega, by omega⟩
  · rw [if_neg first]
    by_cases last : 0xf0 + code / 0x40000 = 0xf4
    · rw [if_neg (by omega), if_pos last, show code / 0x40000 = 4 by omega]
      exact ⟨0x80, 0x8f, rfl, by omega, by omega⟩
    · rw [if_pos (by omega), show 0xf0 + code / 0x40000 - 0xf0 = code / 0x40000 by omega]
      exact ⟨0x80, 0xbf, rfl, by omega, by omega⟩

/-- The bytes of a character are read as the character. -/
theorem utf8Text?_utf8Bytes (character : Char) (rest : Bytes) :
    utf8Text? none (utf8Bytes character ++ rest) = (utf8Text? none rest).map (character :: ·) := by
  have valid := toNat_valid character
  unfold utf8Bytes
  dsimp only
  by_cases one : character.toNat < 0x80
  · have starts : utf8Start? character.toNat = some (.inl character) := by
      unfold utf8Start?
      rw [if_pos one, Char.ofNat_toNat]
    rw [if_pos one, List.singleton_append, utf8Text?, toNat_toUInt8 (by omega), starts]
  rw [if_neg one]
  by_cases two : character.toNat < 0x800
  · have starts : utf8Start? (0xc0 + character.toNat / 0x40) =
        some (.inr ⟨character.toNat / 0x40, 1, 0x80, 0xbf⟩) := by
      unfold utf8Start?
      rw [if_neg (by omega), if_pos (by omega),
        show 0xc0 + character.toNat / 0x40 - 0xc0 = character.toNat / 0x40 by omega]
    rw [if_pos two, List.cons_append, List.singleton_append, utf8Text?_start _ (by omega) starts,
      utf8Text?_last rest character (by omega) (by omega) (by omega) (by omega)]
  rw [if_neg two]
  by_cases three : character.toNat < 0x10000
  · obtain ⟨low, high, starts, above, below⟩ :=
      utf8Start?_three (Nat.le_of_not_lt two) three (by omega)
    rw [if_pos three, List.cons_append, List.cons_append, List.singleton_append,
      utf8Text?_start _ (by omega) starts, utf8Text?_middle _ (by omega) (by decide) above below,
      utf8Text?_last rest character (by omega) (by omega) (by omega) (by omega)]
  · obtain ⟨low, high, starts, above, below⟩ := utf8Start?_four (Nat.le_of_not_lt three) (by omega)
    rw [if_neg three, List.cons_append, List.cons_append, List.cons_append, List.singleton_append,
      utf8Text?_start _ (by omega) starts, utf8Text?_middle _ (by omega) (by decide) above below,
      utf8Text?_middle _ (by omega) (by decide) (by omega) (by omega),
      utf8Text?_last rest character (by omega) (by omega) (by omega) (by omega)]

/-- A text that has been encoded is decoded again. -/
theorem decodeUtf8?_encodeUtf8 (text : Text) : decodeUtf8? (encodeUtf8 text) = some text := by
  unfold decodeUtf8? encodeUtf8
  induction text with
  | nil => rfl
  | cons character text ih => rw [List.flatMap_cons, utf8Text?_utf8Bytes, ih, Option.map_some]

end DocSite
