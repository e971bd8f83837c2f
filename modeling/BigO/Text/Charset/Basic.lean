import BigO.Text.Charset.ByteTable
import BigO.Text.Charset.Cells
import BigO.Text.Charset.Punycode

/-! Charsets: how their bytes become text. A lossy decoding puts a mark for each part that is no
encoding of a code point; a strict one gives nothing if there is such a part. Some charsets can be
named and yet give no text. -/

namespace BigO.Text

/-- How the bytes of a charset are decoded. -/
inductive Charset where
  /-- Bytes that stand for units. -/
  | units (decode : List UInt8 → List (Option CodePoint))
  /-- Units of `width` bytes, in the order that a mark at the front tells; `bigMark` is the mark
  with the big end first. -/
  | marked (width : Nat) (unit : ByteOrder → UnitDecoder) (bigMark : List UInt8)
  /-- Bytes in sequences, of which the last one may be broken off. -/
  | sequences (decode : List UInt8 → Decoded)
  | punycode
  /-- Names of domains, which cannot be decoded with marks. -/
  | domainName
  /-- The bytes stand for other bytes. -/
  | bytesOnly
  /-- The letters stand for other letters. -/
  | rotated
  /-- No bytes stand for anything. -/
  | undefined

/-- Why bytes of a charset that can be named give no text. -/
inductive CharsetFault where
  /-- Units of this many bits do not say in which order their bytes are. -/
  | noOrderMark (bits : Nat)
  /-- The sequence that is broken off is longer than a decoder keeps. -/
  | endless
  | noMarks
  | bytesOnly
  | rotated
  | undefined
  | undecodable (what : Undecodable)
deriving DecidableEq

namespace CharsetFault

/-- The name of the kind of a fault. -/
def name : CharsetFault → Text
  | .noOrderMark _ | .endless | .noMarks | .undefined => text "UnicodeError"
  | .bytesOnly => text "AssertionError"
  | .rotated => text "TypeError"
  | .undecodable _ => text "UnicodeDecodeError"

/-- The wording of a fault. -/
def message : CharsetFault → Text
  | .noOrderMark bits => text "UTF-" ++ ofNat bits ++ text " stream does not start with BOM"
  | .endless => text "pending buffer overflow"
  | .noMarks => text "Unsupported error handling replace"
  | .bytesOnly => []
  | .rotated =>
    text "descriptor 'translate' for 'str' objects doesn't apply to a 'bytes' object"
  | .undefined => text "undefined encoding"
  | .undecodable what => what.message

end CharsetFault

namespace Charset

/-- How many bytes of a sequence that is broken off are kept. -/
def keptBytes : Nat := 8

/-- A charset whose bytes are cut into units by a decoder. -/
def ofUnit (unit : UnitDecoder) : Charset := .units (Text.units unit)

/-- UTF-8. -/
def utf8 : Charset := .ofUnit (utf8Unit false)

/-- A charset of single bytes. -/
def ofTable (table : ByteTable) : Charset := .ofUnit table.unit

/-- The order that a mark of `width` bytes at the front tells. -/
def order? (width : Nat) (bigMark bytes : List UInt8) : Option ByteOrder :=
  if bytes.take width = bigMark then some .bigEndian
  else if bytes.take width = bigMark.reverse then some .littleEndian
  else none

/-- The text of some bytes, with a mark for each part that is no encoding of a code point. -/
def lossy (bytes : List UInt8) : Charset → Except CharsetFault Text
  | .units decode => .ok (Text.lossy (decode bytes))
  | .marked width unit bigMark =>
    match order? width bigMark bytes with
    | some order => .ok (Text.lossy (Text.units (unit order) (bytes.drop width)))
    | none =>
      if width ≤ bytes.length then .error (.noOrderMark (8 * width))
      else .ok (Text.lossy (Text.units (unit .littleEndian) bytes))
  | .sequences decode =>
    let decoded := decode bytes
    if keptBytes < decoded.broken then .error .endless else .ok (Text.lossy decoded.units)
  | .punycode => (Punycode.decodeLossy bytes).mapError .undecodable
  | .domainName => .error .noMarks
  | .bytesOnly => .error .bytesOnly
  | .rotated => .error .rotated
  | .undefined => .error .undefined

/-- The text of some bytes, if all of them are well encoded. Without a mark the little end comes
first. -/
def strict? (bytes : List UInt8) : Charset → Option Text
  | .units decode => Text.strict? (decode bytes)
  | .marked width unit bigMark =>
    match order? width bigMark bytes with
    | some order => Text.strict? (Text.units (unit order) (bytes.drop width))
    | none => Text.strict? (Text.units (unit .littleEndian) bytes)
  | .sequences decode => Text.strict? (decode bytes).units
  | .punycode => Punycode.decode? bytes
  | .domainName => Text.strict? (Text.units asciiUnit bytes)
  | .bytesOnly | .rotated | .undefined => none

end Charset

end BigO.Text
