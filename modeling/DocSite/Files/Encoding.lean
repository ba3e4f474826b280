/-
Encodings of source files.

A file that begins with a byte order mark is read in the encoding of the mark, and one that is not
valid in it cannot be read. The marks of the four-byte encoding are looked for first, since one of them
begins like a mark of the two-byte encoding. A file without a mark is read as UTF-8, or, where it is
not valid, with one character for every byte.
-/
import DocSite.Files.Log

namespace DocSite

abbrev Bytes := List UInt8

/-! ### UTF-8 -/

/-- A sequence of which the first bytes are read: the value so far, the number of bytes to come, and
the bounds of the next one. -/
structure Utf8Partial where
  value : Nat
  missing : Nat
  low : Nat
  high : Nat

/-- What the first byte of a sequence announces: a character of its own, or more bytes. The bounds of
the second byte rule out long forms, surrogates and codes beyond the last character. -/
def utf8Start? (byte : Nat) : Option (Char ⊕ Utf8Partial) :=
  if byte < 0x80 then some (.inl (Char.ofNat byte))
  else if 0xc2 ≤ byte ∧ byte ≤ 0xdf then some (.inr ⟨byte - 0xc0, 1, 0x80, 0xbf⟩)
  else if byte = 0xe0 then some (.inr ⟨0, 2, 0xa0, 0xbf⟩)
  else if byte = 0xed then some (.inr ⟨0xd, 2, 0x80, 0x9f⟩)
  else if 0xe1 ≤ byte ∧ byte ≤ 0xef then some (.inr ⟨byte - 0xe0, 2, 0x80, 0xbf⟩)
  else if byte = 0xf0 then some (.inr ⟨0, 3, 0x90, 0xbf⟩)
  else if 0xf1 ≤ byte ∧ byte ≤ 0xf3 then some (.inr ⟨byte - 0xf0, 3, 0x80, 0xbf⟩)
  else if byte = 0xf4 then some (.inr ⟨4, 3, 0x80, 0x8f⟩)
  else none

def utf8Text? : Option Utf8Partial → Bytes → Option Text
  | none, [] => some []
  | some _, [] => none
  | none, byte :: rest =>
      match utf8Start? byte.toNat with
      | none => none
      | some (.inl character) => (utf8Text? none rest).map (character :: ·)
      | some (.inr started) => utf8Text? (some started) rest
  | some started, byte :: rest =>
      let code := byte.toNat
      if started.low ≤ code ∧ code ≤ started.high then
        let value := started.value * 0x40 + (code - 0x80)
        if started.missing ≤ 1 then
          (charOf? value).bind fun character => (utf8Text? none rest).map (character :: ·)
        else utf8Text? (some ⟨value, started.missing - 1, 0x80, 0xbf⟩) rest
      else none

def decodeUtf8? (bytes : Bytes) : Option Text := utf8Text? none bytes

def utf8Bytes (character : Char) : Bytes :=
  let code := character.toNat
  if code < 0x80 then [code.toUInt8]
  else if code < 0x800 then [(0xc0 + code / 0x40).toUInt8, (0x80 + code % 0x40).toUInt8]
  else if code < 0x10000 then
    [(0xe0 + code / 0x1000).toUInt8, (0x80 + code / 0x40 % 0x40).toUInt8,
      (0x80 + code % 0x40).toUInt8]
  else
    [(0xf0 + code / 0x40000).toUInt8, (0x80 + code / 0x1000 % 0x40).toUInt8,
      (0x80 + code / 0x40 % 0x40).toUInt8, (0x80 + code % 0x40).toUInt8]

def encodeUtf8 (text : Text) : Bytes := text.flatMap utf8Bytes

/-! ### UTF-16 and UTF-32 -/

inductive ByteOrder where
  | littleEnd
  | bigEnd
  deriving DecidableEq, Repr

def ByteOrder.value (order : ByteOrder) (bytes : Bytes) : Nat :=
  match order with
  | .littleEnd => bytes.foldr (fun byte value => value * 0x100 + byte.toNat) 0
  | .bigEnd => bytes.foldl (fun value byte => value * 0x100 + byte.toNat) 0

/-- The two-byte units of bytes, of which there has to be an even number. -/
def pairs? (order : ByteOrder) : Bytes → Option (List Nat)
  | [] => some []
  | [_] => none
  | first :: second :: rest => (pairs? order rest).map (order.value [first, second] :: ·)

/-- The four-byte units of bytes, the number of which has to be divisible by four. -/
def quadruples? (order : ByteOrder) : Bytes → Option (List Nat)
  | [] => some []
  | first :: second :: third :: fourth :: rest =>
      (quadruples? order rest).map (order.value [first, second, third, fourth] :: ·)
  | _ => none

def isHighUnit (unit : Nat) : Bool := 0xd800 ≤ unit && unit ≤ 0xdbff

/-- The character of a first half of a surrogate pair and the unit behind it. -/
def pairedChar? (high next : Nat) : Option Char :=
  if 0xdc00 ≤ next ∧ next ≤ 0xdfff then
    charOf? (0x10000 + (high - 0xd800) * 0x400 + (next - 0xdc00))
  else none

/-- The text of two-byte units. A character beyond U+FFFF takes a high and a low surrogate, which
stand nowhere else. -/
def utf16Text? : List Nat → Option Text
  | [] => some []
  | [unit] => (charOf? unit).map ([·])
  | unit :: next :: rest =>
      if isHighUnit unit then
        (pairedChar? unit next).bind fun character => (utf16Text? rest).map (character :: ·)
      else
        (charOf? unit).bind fun character => (utf16Text? (next :: rest)).map (character :: ·)

def decodeUtf16? (order : ByteOrder) (bytes : Bytes) : Option Text :=
  (pairs? order bytes).bind utf16Text?

def decodeUtf32? (order : ByteOrder) (bytes : Bytes) : Option Text :=
  (quadruples? order bytes).bind fun units => units.mapM charOf?

/-! ### Marks -/

inductive MarkedEncoding where
  | utf8
  | utf16 (order : ByteOrder)
  | utf32 (order : ByteOrder)
  deriving DecidableEq, Repr

namespace MarkedEncoding

def mark : MarkedEncoding → Bytes
  | .utf8 => [0xef, 0xbb, 0xbf]
  | .utf16 .littleEnd => [0xff, 0xfe]
  | .utf16 .bigEnd => [0xfe, 0xff]
  | .utf32 .littleEnd => [0xff, 0xfe, 0x00, 0x00]
  | .utf32 .bigEnd => [0x00, 0x00, 0xfe, 0xff]

def name : MarkedEncoding → Text
  | .utf8 => "utf-8-sig".toList
  | .utf16 _ => "utf-16".toList
  | .utf32 _ => "utf-32".toList

def decode? : MarkedEncoding → Bytes → Option Text
  | .utf8, bytes => decodeUtf8? bytes
  | .utf16 order, bytes => decodeUtf16? order bytes
  | .utf32 order, bytes => decodeUtf32? order bytes

def all : List MarkedEncoding :=
  [.utf32 .littleEnd, .utf32 .bigEnd, .utf8, .utf16 .littleEnd, .utf16 .bigEnd]

end MarkedEncoding

/-- The encoding that bytes announce by a mark, and the bytes behind the mark. -/
def marked? (bytes : Bytes) : Option (MarkedEncoding × Bytes) :=
  MarkedEncoding.all.findSome? fun encoding =>
    if encoding.mark.isPrefixOf bytes then some (encoding, bytes.drop encoding.mark.length)
    else none

def latin1Text (bytes : Bytes) : Text :=
  bytes.map fun byte => Char.ofNat byte.toNat

def decodeSource (name : Text) (bytes : Bytes) : Logged (Option Text) := do
  match marked? bytes with
  | some (encoding, rest) =>
      match encoding.decode? rest with
      | some text => return some text
      | none =>
          Logged.warn ("Invalid ".toList ++ encoding.name ++ " in ".toList ++ name ++
            ": UnicodeDecodeError".toList)
          return none
  | none =>
      match decodeUtf8? bytes with
      | some text => return some text
      | none =>
          Logged.note .debug ("utf-8 decode failed for ".toList ++ name)
          return some (latin1Text bytes)

end DocSite
