import BigO.Json.Reader
import BigO.Text.Decoding

/-! JSON in bytes. The encoding is told by a byte order mark, or else by where the zero bytes of the
first code points lie. Encoded surrogates pass. -/

namespace BigO.Json

open BigO.Text

/-- The encodings in which JSON comes. -/
inductive Encoding where
  | utf8
  | utf16 (order : ByteOrder)
  | utf32 (order : ByteOrder)
deriving DecidableEq

/-- The byte order marks. -/
def orderMarks : List (List UInt8 × Encoding) := [
  ([0x00, 0x00, 0xFE, 0xFF], .utf32 .bigEndian), ([0xFF, 0xFE, 0x00, 0x00], .utf32 .littleEndian),
  ([0xFE, 0xFF], .utf16 .bigEndian), ([0xFF, 0xFE], .utf16 .littleEndian),
  ([0xEF, 0xBB, 0xBF], .utf8)]

/-- The encoding that the places of the zeros among the first bytes suggest. -/
def encodingByZeros : List UInt8 → Encoding
  | a :: b :: c :: d :: _ =>
    if a = 0 then (if b = 0 then .utf32 .bigEndian else .utf16 .bigEndian)
    else if b = 0 then
      (if c = 0 ∧ d = 0 then .utf32 .littleEndian else .utf16 .littleEndian)
    else .utf8
  | [a, b] =>
    if a = 0 then .utf16 .bigEndian else if b = 0 then .utf16 .littleEndian else .utf8
  | _ => .utf8

/-- The encoding of some bytes and the length of the byte order mark at their front. -/
def detectEncoding (bytes : List UInt8) : Encoding × Nat :=
  match orderMarks.find? fun m => m.1.isPrefixOf bytes with
  | some (mark, encoding) => (encoding, mark.length)
  | none => (encodingByZeros bytes, 0)

namespace Encoding

/-- The decoder of an encoding. -/
def unit : Encoding → UnitDecoder
  | .utf8 => utf8Unit true
  | .utf16 order => utf16Unit true order
  | .utf32 order => utf32Unit true order

/-- The end of the name of an encoding that has two orders. -/
def orderName : ByteOrder → Text
  | .littleEndian => text "-le"
  | .bigEndian => text "-be"

/-- The name of an encoding. -/
def name : Encoding → Text
  | .utf8 => text "utf-8"
  | .utf16 order => text "utf-16" ++ orderName order
  | .utf32 order => text "utf-32" ++ orderName order

/-- A fault in UTF-8: the encoding of a surrogate is as wrong as any other when it is cut off. -/
def utf8Fault (place : Nat) (bytes : List UInt8) : Undecodable :=
  let wrong := bytes.take (utf8Unit false bytes).2
  { codec := name .utf8, bytes := wrong, place
    reason :=
      if (bytes.head?.bind fun b => sequenceShape false b.toNat).isNone then
        text "invalid start byte"
      else if wrong.length = bytes.length then text "unexpected end of data"
      else text "invalid continuation byte" }

/-- What is wrong at a place where the decoder takes so many of the bytes from there on. Positions
count a byte order mark, but not that of UTF-8. -/
def undecodable (encoding : Encoding) (place taken : Nat) (bytes : List UInt8) : Undecodable :=
  match encoding with
  | .utf8 => utf8Fault place bytes
  | .utf16 _ =>
    { codec := encoding.name, bytes := bytes.take taken, place, reason := text "truncated data" }
  | .utf32 _ =>
    { codec := encoding.name, bytes := bytes.take taken, place
      reason :=
        if bytes.length < 4 then text "truncated data"
        else text "code point not in range(0x110000)" }

end Encoding

/-- Why bytes give no value. -/
inductive ByteError where
  | undecodable (what : Undecodable)
  | unreadable (cause : ReadError)
deriving DecidableEq

/-- The text of some bytes, if they are well encoded. -/
def decode (bytes : List UInt8) : Except Undecodable Text :=
  let (encoding, marked) := detectEncoding bytes
  let start := match encoding with
    | .utf8 => 0
    | _ => marked
  let content := bytes.drop marked
  match faultFrom encoding.unit start 0 content with
  | some (place, taken, rest) => .error (encoding.undecodable place taken rest)
  | none => .ok (lossy (units encoding.unit content))

/-- Reads bytes as one value. -/
def readBytes (bytes : List UInt8) : Except ByteError Json :=
  match decode bytes with
  | .error what => .error (.undecodable what)
  | .ok source => (readWhole source).mapError .unreadable

end BigO.Json
