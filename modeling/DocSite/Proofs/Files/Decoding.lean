/-
Decoding.

What a file is decoded to is settled by what its bytes encode. Behind a mark the bytes are read exactly if they
are those of a text in the encoding of the mark, and the text comes back; without a mark every file is read, as
UTF-8 if its bytes are those of a text and byte by byte otherwise.
-/
import Mathlib.Tactic.SplitIfs
import DocSite.Proofs.Files.Units

namespace DocSite

/-! ### UTF-8 -/

section Partial

variable {value low high : Nat} {bytes : Bytes} {text : Text}

/-- The byte that ends a sequence gives its character. -/
theorem exists_of_utf8Text?_last (read : utf8Text? (some ⟨value, 1, low, high⟩) bytes = some text) :
    ∃ byte rest character more, bytes = byte :: rest ∧ text = character :: more ∧
      low ≤ byte.toNat ∧ byte.toNat ≤ high ∧ value * 0x40 + (byte.toNat - 0x80) = character.toNat ∧
        utf8Text? none rest = some more := by
  cases bytes with
  | nil => cases read
  | cons byte rest =>
      rw [utf8Text?] at read
      dsimp only at read
      split at read
      · rename_i within
        rw [if_pos (Nat.le_refl 1)] at read
        obtain ⟨character, found, further⟩ := Option.bind_eq_some_iff.mp read
        obtain ⟨more, readRest, rfl⟩ := Option.map_eq_some_iff.mp further
        exact ⟨byte, rest, character, more, rfl, rfl, within.1, within.2, charOf?_eq_some_iff.mp found, readRest⟩
      · cases read

theorem exists_of_utf8Text?_middle {missing : Nat} (more : 1 < missing)
    (read : utf8Text? (some ⟨value, missing, low, high⟩) bytes = some text) :
    ∃ byte rest, bytes = byte :: rest ∧ low ≤ byte.toNat ∧ byte.toNat ≤ high ∧
      utf8Text? (some ⟨value * 0x40 + (byte.toNat - 0x80), missing - 1, 0x80, 0xbf⟩) rest = some text := by
  cases bytes with
  | nil => cases read
  | cons byte rest =>
      rw [utf8Text?] at read
      dsimp only at read
      split at read
      · rename_i within
        rw [if_neg (Nat.not_le.mpr more)] at read
        exact ⟨byte, rest, rfl, within.1, within.2, read⟩
      · cases read

end Partial

section Characters

variable {character : Char} {first second third fourth : UInt8}

theorem utf8Bytes_one (small : character.toNat < 0x80) (begins : character.toNat = first.toNat) :
    utf8Bytes character = [first] := by
  unfold utf8Bytes
  dsimp only
  rw [if_pos small, toUInt8_eq begins]

theorem utf8Bytes_two (large : 0x80 ≤ character.toNat) (small : character.toNat < 0x800)
    (begins : 0xc0 + character.toNat / 0x40 = first.toNat)
    (ends : 0x80 + character.toNat % 0x40 = second.toNat) : utf8Bytes character = [first, second] := by
  unfold utf8Bytes
  dsimp only
  rw [if_neg (Nat.not_lt.mpr large), if_pos small, toUInt8_eq begins, toUInt8_eq ends]

theorem utf8Bytes_three (large : 0x800 ≤ character.toNat) (small : character.toNat < 0x10000)
    (begins : 0xe0 + character.toNat / 0x1000 = first.toNat)
    (middle : 0x80 + character.toNat / 0x40 % 0x40 = second.toNat)
    (ends : 0x80 + character.toNat % 0x40 = third.toNat) : utf8Bytes character = [first, second, third] := by
  unfold utf8Bytes
  dsimp only
  rw [if_neg (by omega), if_neg (Nat.not_lt.mpr large), if_pos small, toUInt8_eq begins, toUInt8_eq middle,
    toUInt8_eq ends]

theorem utf8Bytes_four (large : 0x10000 ≤ character.toNat)
    (begins : 0xf0 + character.toNat / 0x40000 = first.toNat)
    (middle : 0x80 + character.toNat / 0x1000 % 0x40 = second.toNat)
    (further : 0x80 + character.toNat / 0x40 % 0x40 = third.toNat)
    (ends : 0x80 + character.toNat % 0x40 = fourth.toNat) :
    utf8Bytes character = [first, second, third, fourth] := by
  unfold utf8Bytes
  dsimp only
  rw [if_neg (by omega), if_neg (by omega), if_neg (Nat.not_lt.mpr large), toUInt8_eq begins, toUInt8_eq middle,
    toUInt8_eq further, toUInt8_eq ends]

end Characters

/-- What a first byte announces, by the number of bytes behind it. The bounds of the second byte leave no
character that would be written with fewer bytes. -/
theorem utf8Start?_cases {byte : Nat} {started : Utf8Partial} (starts : utf8Start? byte = some (.inr started)) :
    (started = ⟨byte - 0xc0, 1, 0x80, 0xbf⟩ ∧ 0xc2 ≤ byte ∧ byte ≤ 0xdf) ∨
      (∃ low high, started = ⟨byte - 0xe0, 2, low, high⟩ ∧ 0xe0 ≤ byte ∧ byte ≤ 0xef ∧ 0x80 ≤ low ∧
        high ≤ 0xbf ∧ (byte = 0xe0 → 0xa0 ≤ low)) ∨
      ∃ low high, started = ⟨byte - 0xf0, 3, low, high⟩ ∧ 0xf0 ≤ byte ∧ byte ≤ 0xf4 ∧ 0x80 ≤ low ∧
        high ≤ 0xbf ∧ (byte = 0xf0 → 0x90 ≤ low) := by
  unfold utf8Start? at starts
  split_ifs at starts with ascii two longest surrogate three least four most
  · exact absurd (Option.some.inj starts) Sum.inl_ne_inr
  all_goals obtain rfl := Sum.inr.inj (Option.some.inj starts)
  · exact .inl ⟨rfl, two⟩
  · rw [longest]
    exact .inr (.inl ⟨_, _, rfl, by decide⟩)
  · rw [surrogate]
    exact .inr (.inl ⟨_, _, rfl, by decide⟩)
  · exact .inr (.inl ⟨_, _, rfl, by omega⟩)
  · rw [least]
    exact .inr (.inr ⟨_, _, rfl, by decide⟩)
  · exact .inr (.inr ⟨_, _, rfl, by omega⟩)
  · rw [most]
    exact .inr (.inr ⟨_, _, rfl, by decide⟩)

theorem toNat_ofNat_toNat (byte : UInt8) : (Char.ofNat byte.toNat).toNat = byte.toNat := by
  have fits := byte.toNat_lt
  rw [Char.ofNat, dif_pos (.inl (by omega))]
  rfl

/-- A first byte that stands for a character is all of its bytes. -/
theorem utf8Bytes_of_start {byte : UInt8} {character : Char}
    (starts : utf8Start? byte.toNat = some (.inl character)) : utf8Bytes character = [byte] := by
  unfold utf8Start? at starts
  split_ifs at starts with ascii
  · obtain rfl := Sum.inl.inj (Option.some.inj starts)
    have code := toNat_ofNat_toNat byte
    exact utf8Bytes_one (by omega) code
  all_goals exact absurd (Option.some.inj starts) Sum.inr_ne_inl

/-- Where bytes are read as a text, they begin with the bytes of its first character. -/
theorem exists_of_utf8Text?_cons {byte : UInt8} {bytes : Bytes} {text : Text}
    (read : utf8Text? none (byte :: bytes) = some text) :
    ∃ character rest more, byte :: bytes = utf8Bytes character ++ rest ∧ text = character :: more ∧
      utf8Text? none rest = some more := by
  rw [utf8Text?] at read
  cases starts : utf8Start? byte.toNat with
  | none =>
      rw [starts] at read
      cases read
  | some start =>
      rw [starts] at read
      cases start with
      | inl character =>
          obtain ⟨more, readRest, rfl⟩ := Option.map_eq_some_iff.mp read
          exact ⟨character, bytes, more, by rw [utf8Bytes_of_start starts]; rfl, rfl, readRest⟩
      | inr started =>
          dsimp only at read
          rcases utf8Start?_cases starts with ⟨rfl, above, below⟩ | ⟨low, high, rfl, above, below, least, most, long⟩ |
            ⟨low, high, rfl, above, below, least, most, long⟩
          · obtain ⟨last, rest, character, more, rfl, rfl, _, _, whole, readRest⟩ := exists_of_utf8Text?_last read
            have spelled : utf8Bytes character = [byte, last] :=
              utf8Bytes_two (by omega) (by omega) (by omega) (by omega)
            exact ⟨character, rest, more, by rw [spelled]; rfl, rfl, readRest⟩
          · obtain ⟨second, rest, rfl, _, _, further⟩ := exists_of_utf8Text?_middle (by decide) read
            obtain ⟨last, rest, character, more, rfl, rfl, _, _, whole, readRest⟩ :=
              exists_of_utf8Text?_last further
            have spelled : utf8Bytes character = [byte, second, last] :=
              utf8Bytes_three (by omega) (by omega) (by omega) (by omega) (by omega)
            exact ⟨character, rest, more, by rw [spelled]; rfl, rfl, readRest⟩
          · obtain ⟨second, rest, rfl, _, _, further⟩ := exists_of_utf8Text?_middle (by decide) read
            obtain ⟨third, rest, rfl, _, _, further⟩ := exists_of_utf8Text?_middle (by decide) further
            obtain ⟨last, rest, character, more, rfl, rfl, _, _, whole, readRest⟩ :=
              exists_of_utf8Text?_last further
            have spelled : utf8Bytes character = [byte, second, third, last] :=
              utf8Bytes_four (by omega) (by omega) (by omega) (by omega) (by omega)
            exact ⟨character, rest, more, by rw [spelled]; rfl, rfl, readRest⟩

/-- Bytes are read as UTF-8 exactly if they encode a text, and as this text. -/
theorem decodeUtf8?_eq_some_iff {bytes : Bytes} {text : Text} :
    decodeUtf8? bytes = some text ↔ bytes = encodeUtf8 text := by
  constructor
  · intro decoded
    unfold decodeUtf8? at decoded
    unfold encodeUtf8
    induction text generalizing bytes with
    | nil =>
        cases bytes with
        | nil => rfl
        | cons byte bytes =>
            obtain ⟨character, rest, more, -, impossible, -⟩ := exists_of_utf8Text?_cons decoded
            cases impossible
    | cons character text ih =>
        cases bytes with
        | nil => cases decoded
        | cons byte bytes =>
            obtain ⟨first, rest, more, begins, equal, readRest⟩ := exists_of_utf8Text?_cons decoded
            cases equal
            rw [begins, List.flatMap_cons, ← ih readRest]
  · rintro rfl
    exact decodeUtf8?_encodeUtf8 text

/-! ### Marks -/

namespace MarkedEncoding

def encode : MarkedEncoding → Text → Bytes
  | .utf8 => encodeUtf8
  | .utf16 order => encodeUtf16 order
  | .utf32 order => encodeUtf32 order

theorem decode?_eq_some_iff {encoding : MarkedEncoding} {bytes : Bytes} {text : Text} :
    encoding.decode? bytes = some text ↔ bytes = encoding.encode text := by
  cases encoding with
  | utf8 => exact decodeUtf8?_eq_some_iff
  | utf16 order => exact decodeUtf16?_eq_some_iff
  | utf32 order => exact decodeUtf32?_eq_some_iff

theorem decode?_eq_none_iff {encoding : MarkedEncoding} {bytes : Bytes} :
    encoding.decode? bytes = none ↔ ∀ text, bytes ≠ encoding.encode text := by
  rw [Option.eq_none_iff_forall_ne_some]
  exact forall_congr' fun text => not_congr decode?_eq_some_iff

/-- Whether bytes are marked as those of an encoding: they are its mark and what follows. A mark of the
two-byte encoding counts only where no mark of the four-byte encoding stands. -/
structure Announces (encoding : MarkedEncoding) (bytes rest : Bytes) : Prop where
  begins : bytes = encoding.mark ++ rest
  unlessWider : ∀ order wider, encoding = .utf16 order → ¬mark (.utf32 wider) <+: bytes

theorem mem_all (encoding : MarkedEncoding) : encoding ∈ all := by
  rcases encoding with _ | (_ | _) | (_ | _) <;> decide

/-- The encoding that bytes are marked as is found. -/
theorem Announces.marked? {encoding : MarkedEncoding} {bytes rest : Bytes}
    (announces : encoding.Announces bytes rest) : DocSite.marked? bytes = some (encoding, rest) := by
  obtain ⟨rfl, unlessWider⟩ := announces
  have wider (order : ByteOrder) (isNarrow : ∃ narrow, encoding = .utf16 narrow) :
      (mark (.utf32 order)).isPrefixOf (encoding.mark ++ rest) = false := by
    obtain ⟨narrow, isNarrow⟩ := isNarrow
    rw [← Bool.not_eq_true, List.isPrefixOf_iff_prefix]
    exact unlessWider narrow order isNarrow
  rcases encoding with _ | (_ | _) | (_ | _)
  · rfl
  · have first := wider .littleEnd ⟨_, rfl⟩
    unfold DocSite.marked? all
    rw [List.findSome?_cons, first]
    rfl
  · rfl
  · rfl
  · rfl

end MarkedEncoding

open MarkedEncoding (Announces mark)

theorem marked?_eq_some_iff {encoding : MarkedEncoding} {bytes rest : Bytes} :
    marked? bytes = some (encoding, rest) ↔ encoding.Announces bytes rest := by
  constructor
  · intro found
    have begins : bytes = encoding.mark ++ rest := by
      obtain ⟨first, -, marked⟩ := List.exists_of_findSome?_eq_some found
      split at marked
      · rename_i isMark
        cases marked
        obtain ⟨behind, rfl⟩ := List.isPrefixOf_iff_prefix.mp isMark
        rw [List.drop_left]
      · cases marked
    refine ⟨begins, fun order wider isNarrow isWide => ?_⟩
    -- the wider mark would have been found in the place of this one
    obtain ⟨behind, rfl⟩ := isWide
    have wide : (MarkedEncoding.utf32 wider).Announces (mark (.utf32 wider) ++ behind) behind :=
      ⟨rfl, fun _ _ impossible => nomatch impossible⟩
    rw [wide.marked?, isNarrow] at found
    cases found
  · exact Announces.marked?

theorem marked?_eq_none_iff {bytes : Bytes} :
    marked? bytes = none ↔ ∀ encoding : MarkedEncoding, ¬encoding.mark <+: bytes := by
  unfold marked?
  rw [List.findSome?_eq_none_iff]
  constructor
  · intro none encoding isMark
    have absent := none encoding encoding.mem_all
    rw [if_pos (List.isPrefixOf_iff_prefix.mpr isMark)] at absent
    cases absent
  · intro none encoding _
    exact if_neg fun isMark => none encoding (List.isPrefixOf_iff_prefix.mp isMark)

/-- A text in UTF-8 looks marked only if it begins with the character that serves as the mark. -/
theorem marked?_encodeUtf8 {text : Text} (plain : text.head? ≠ some '\uFEFF') :
    marked? (encodeUtf8 text) = none := by
  rw [marked?_eq_none_iff]
  rintro encoding ⟨rest, marked⟩
  have decoded : decodeUtf8? (encoding.mark ++ rest) = some text := decodeUtf8?_eq_some_iff.mpr marked
  rcases encoding with _ | (_ | _) | (_ | _)
  · have isCharacter : mark .utf8 = utf8Bytes '\uFEFF' := by decide
    rw [isCharacter, decodeUtf8?, utf8Text?_utf8Bytes] at decoded
    obtain ⟨more, -, rfl⟩ := Option.map_eq_some_iff.mp decoded
    exact plain rfl
  · cases decoded
  · cases decoded
  · cases decoded
  · cases decoded

/-- Where two-byte units begin like the rest of a mark of four-byte units, the text begins with a null
character. -/
theorem head?_of_encodeUtf16 {text : Text} {rest : Bytes}
    (begins : encodeUtf16 .littleEnd text = 0x00 :: 0x00 :: rest) : text.head? = some '\x00' := by
  have decoded := decodeUtf16?_eq_some_iff.mpr begins.symm
  obtain ⟨codes, cut, read⟩ := Option.bind_eq_some_iff.mp decoded
  rw [pairs?] at cut
  obtain ⟨further, -, rfl⟩ := Option.map_eq_some_iff.mp cut
  rw [show ByteOrder.littleEnd.value [0x00, 0x00] = 0 from rfl, utf16Text?_cons rfl] at read
  obtain ⟨character, found, readRest⟩ := Option.bind_eq_some_iff.mp read
  obtain ⟨more, -, rfl⟩ := Option.map_eq_some_iff.mp readRest
  exact found.symm

theorem announces_encode {encoding : MarkedEncoding} {text : Text}
    (starts : encoding = .utf16 .littleEnd → text.head? ≠ some '\x00') :
    encoding.Announces (encoding.mark ++ encoding.encode text) (encoding.encode text) where
  begins := rfl
  unlessWider := by
    rintro order wider rfl ⟨rest, wide⟩
    cases order with
    | littleEnd =>
        cases wider with
        | littleEnd =>
            replace wide : mark (.utf16 .littleEnd) ++ 0x00 :: 0x00 :: rest =
              mark (.utf16 .littleEnd) ++ encodeUtf16 .littleEnd text := wide
            exact starts rfl (head?_of_encodeUtf16 (List.append_cancel_left wide).symm)
        | bigEnd => cases wide
    | bigEnd => cases wider <;> cases wide

/-! ### Sources -/

theorem decodeSource_value (name : Text) (bytes : Bytes) :
    (decodeSource name bytes).value =
      match marked? bytes with
      | some (encoding, rest) => encoding.decode? rest
      | none => some ((decodeUtf8? bytes).getD (latin1Text bytes)) := by
  unfold decodeSource
  cases marked? bytes with
  | none =>
      dsimp only
      cases decodeUtf8? bytes <;> rfl
  | some found =>
      obtain ⟨encoding, rest⟩ := found
      dsimp only
      cases encoding.decode? rest <;> rfl

theorem latin1Text_codes (bytes : Bytes) : (latin1Text bytes).map Char.toNat = bytes.map UInt8.toNat := by
  rw [latin1Text, List.map_map]
  exact List.map_congr_left fun byte _ => toNat_ofNat_toNat byte

/-- What becomes of the bytes of a source file. A text comes back from its bytes in every encoding that is
supported, and a file cannot be read exactly if it is marked and not encoded as its mark says. -/
theorem decodeSource_inverts (name : Text) :
    (∀ (encoding : MarkedEncoding) (text : Text),
      (encoding = .utf16 .littleEnd → text.head? ≠ some '\x00') →
        (decodeSource name (encoding.mark ++ encoding.encode text)).value = some text) ∧
    (∀ text : Text, text.head? ≠ some '\uFEFF' →
      (decodeSource name (encodeUtf8 text)).value = some text) ∧
    (∀ bytes : Bytes, (∀ encoding : MarkedEncoding, ¬encoding.mark <+: bytes) →
      (∀ text, bytes ≠ encodeUtf8 text) →
        ∃ text, (decodeSource name bytes).value = some text ∧
          text.map Char.toNat = bytes.map UInt8.toNat) ∧
    (∀ bytes : Bytes, (decodeSource name bytes).value = none ↔
      ∃ encoding rest, MarkedEncoding.Announces encoding bytes rest ∧
        ∀ text, rest ≠ encoding.encode text) := by
  refine ⟨fun encoding text starts => ?_, fun text plain => ?_, fun bytes unmarked invalid => ?_, fun bytes => ?_⟩
  · rw [decodeSource_value, (announces_encode starts).marked?]
    exact MarkedEncoding.decode?_eq_some_iff.mpr rfl
  · rw [decodeSource_value, marked?_encodeUtf8 plain, decodeUtf8?_encodeUtf8]
    rfl
  · have undecoded : MarkedEncoding.utf8.decode? bytes = none := MarkedEncoding.decode?_eq_none_iff.mpr invalid
    rw [MarkedEncoding.decode?] at undecoded
    rw [decodeSource_value, marked?_eq_none_iff.mpr unmarked, undecoded]
    exact ⟨latin1Text bytes, rfl, latin1Text_codes bytes⟩
  · rw [decodeSource_value]
    constructor
    · intro unread
      cases found : marked? bytes with
      | none =>
          rw [found] at unread
          cases unread
      | some marked =>
          rw [found] at unread
          exact ⟨marked.1, marked.2, marked?_eq_some_iff.mp found, MarkedEncoding.decode?_eq_none_iff.mp unread⟩
    · rintro ⟨encoding, rest, announces, invalid⟩
      rw [announces.marked?]
      exact MarkedEncoding.decode?_eq_none_iff.mpr invalid

/-- A character beyond U+FFFF in two-byte units, and the same units with the last byte missing. -/
theorem decodeSource_inverts_pair :
    (decodeSource [] [0xff, 0xfe, 0x44, 0x00, 0x3d, 0xd8, 0x00, 0xde]).value = some ['D', '😀'] ∧
      (decodeSource [] [0xff, 0xfe, 0x44, 0x00, 0x3d, 0xd8, 0x00]).value = none := by
  have laws := decodeSource_inverts []
  have spelled : [0xff, 0xfe, 0x44, 0x00, 0x3d, 0xd8, 0x00, 0xde] =
      MarkedEncoding.mark (.utf16 .littleEnd) ++ MarkedEncoding.encode (.utf16 .littleEnd) ['D', '😀'] := by
    decide
  have announced : MarkedEncoding.Announces (.utf16 .littleEnd) [0xff, 0xfe, 0x44, 0x00, 0x3d, 0xd8, 0x00]
      [0x44, 0x00, 0x3d, 0xd8, 0x00] := marked?_eq_some_iff.mp (by decide)
  have invalid : MarkedEncoding.decode? (.utf16 .littleEnd) [0x44, 0x00, 0x3d, 0xd8, 0x00] = none := by decide
  constructor
  · rw [spelled]
    exact laws.1 _ _ fun _ => by decide
  · exact (laws.2.2.2 _).mpr ⟨_, _, announced, MarkedEncoding.decode?_eq_none_iff.mp invalid⟩

end DocSite
