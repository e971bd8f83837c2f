import BigO.Text.Hex

/-! Decoding of bytes. A decoder cuts the bytes into units, each a code point or a part that is no
encoding of one; strict decoding refuses such parts and lossy decoding puts a mark for each. -/

namespace BigO.Text

/-- One unit at the front of the bytes and how many bytes it takes, at least one. -/
abbrev UnitDecoder := List UInt8 → Option CodePoint × Nat

/-- The units from here on, behind those `done` (the newest first). The next `skip` bytes belong to
the unit read last. -/
def unitsFrom (decoder : UnitDecoder) (done : List (Option CodePoint)) :
    (skip : Nat) → List UInt8 → List (Option CodePoint)
  | _, [] => done.reverse
  | skip + 1, _ :: rest => unitsFrom decoder done skip rest
  | 0, b :: rest =>
    let (unit, taken) := decoder (b :: rest)
    unitsFrom decoder (unit :: done) (taken - 1) rest

/-- The units of some bytes. -/
def units (decoder : UnitDecoder) (bytes : List UInt8) : List (Option CodePoint) :=
  unitsFrom decoder [] 0 bytes

/-- The first part that is no encoding of a code point: its place and how many bytes the decoder
takes for it, with the bytes from there on. -/
def faultFrom (decoder : UnitDecoder) (place : Nat) :
    (skip : Nat) → List UInt8 → Option (Nat × Nat × List UInt8)
  | _, [] => none
  | skip + 1, _ :: rest => faultFrom decoder (place + 1) skip rest
  | 0, b :: rest =>
    let (unit, taken) := decoder (b :: rest)
    if unit.isNone then some (place, taken, b :: rest)
    else faultFrom decoder (place + 1) (taken - 1) rest

/-- Bytes that are no encoding of a code point: the codec, the bytes, the place of the first of
them, and why. -/
structure Undecodable where
  codec : Text
  bytes : List UInt8
  place : Nat
  reason : Text
deriving DecidableEq

/-- The wording. -/
def Undecodable.message (u : Undecodable) : Text :=
  text "'" ++ u.codec ++ text "' codec can't decode byte" ++
    (match u.bytes with
    | [b] => text " 0x" ++ hexByte b ++ text " in position " ++ ofNat u.place
    | bytes =>
      text "s in position " ++ ofNat u.place ++ text "-" ++ ofNat (u.place + bytes.length - 1)) ++
    text ": " ++ u.reason

/-- Code points, if all units are. -/
def strict? (units : List (Option CodePoint)) : Option Text :=
  if units.all Option.isSome then some (units.filterMap id) else none

/-- Code points, with a mark for each unit that is none. -/
def lossy (units : List (Option CodePoint)) : Text := units.map (·.getD .replacement)

/-- What the first byte of a UTF-8 sequence says: its payload, and the ranges of the bytes behind
it. With `surrogates` the encodings of surrogates are allowed. -/
def sequenceShape (surrogates : Bool) (lead : Nat) : Option (Nat × List (Nat × Nat)) :=
  let any := (0x80, 0xBF)
  if 0xC2 ≤ lead ∧ lead ≤ 0xDF then some (lead - 0xC0, [any])
  else if lead = 0xE0 then some (0, [(0xA0, 0xBF), any])
  else if lead = 0xED then some (0xD, [(0x80, if surrogates then 0xBF else 0x9F), any])
  else if 0xE1 ≤ lead ∧ lead ≤ 0xEF then some (lead - 0xE0, [any, any])
  else if lead = 0xF0 then some (0, [(0x90, 0xBF), any, any])
  else if 0xF1 ≤ lead ∧ lead ≤ 0xF3 then some (lead - 0xF0, [any, any, any])
  else if lead = 0xF4 then some (4, [(0x80, 0x8F), any, any])
  else none

/-- Reads the bytes behind the first one of a sequence. A part that ends too early or goes wrong is
as long as the bytes that fitted. -/
def continuation (payload taken : Nat) : List (Nat × Nat) → List UInt8 → Option CodePoint × Nat
  | [], _ => (some (CodePoint.ofNat payload), taken)
  | _ :: _, [] => (none, taken)
  | (low, high) :: ranges, b :: rest =>
    if low ≤ b.toNat ∧ b.toNat ≤ high then
      continuation (payload * 64 + b.toNat % 64) (taken + 1) ranges rest
    else (none, taken)

/-- UTF-8. -/
def utf8Unit (surrogates : Bool) : UnitDecoder
  | [] => (none, 1)
  | b :: rest =>
    if b.toNat < 0x80 then (some (CodePoint.ofNat b.toNat), 1)
    else
      match sequenceShape surrogates b.toNat with
      | none => (none, 1)
      | some (payload, ranges) => continuation payload 1 ranges rest

/-- The order of the bytes in a wider unit. -/
inductive ByteOrder where
  | littleEndian
  | bigEndian
deriving DecidableEq

/-- The number that bytes stand for. -/
def bytesValue (order : ByteOrder) (bytes : List UInt8) : Nat :=
  let ordered := match order with
    | .bigEndian => bytes
    | .littleEndian => bytes.reverse
  ordered.foldl (fun n (b : UInt8) => n * 256 + b.toNat) 0

/-- UTF-16. With `surrogates` a surrogate may stand alone; without, the first half of a pair that
the bytes break off behind takes all that is left. -/
def utf16Unit (surrogates : Bool) (order : ByteOrder) : UnitDecoder
  | a :: b :: rest =>
    let first := CodePoint.ofNat (bytesValue order [a, b])
    let alone := if surrogates then some first else none
    if !first.isSurrogate then (some first, 2)
    else if !first.isHighSurrogate then (alone, 2)
    else
      match rest with
      | c :: d :: _ =>
        let second := CodePoint.ofNat (bytesValue order [c, d])
        if second.isLowSurrogate then (some (CodePoint.ofSurrogates first second), 4)
        else (alone, 2)
      | _ => (alone, if surrogates then 2 else 2 + rest.length)
  | bytes => (none, bytes.length)

/-- UTF-32. With `surrogates` a surrogate is a code point like any other. -/
def utf32Unit (surrogates : Bool) (order : ByteOrder) : UnitDecoder
  | a :: b :: c :: d :: _ =>
    let n := bytesValue order [a, b, c, d]
    let point := CodePoint.ofNat n
    if n < 0x110000 ∧ (surrogates ∨ point.isSurrogate = false) then (some point, 4) else (none, 4)
  | bytes => (none, bytes.length)

/-- Each byte is the code point with its number. -/
def latin1Unit : UnitDecoder
  | [] => (none, 1)
  | b :: _ => (some (CodePoint.ofNat b.toNat), 1)

/-- Each byte below 128 is the code point with its number. -/
def asciiUnit : UnitDecoder
  | [] => (none, 1)
  | b :: _ => (if b.toNat < 0x80 then some (CodePoint.ofNat b.toNat) else none, 1)

/-- UTF-8 that may begin with a byte order mark. Of a mark that is cut off nothing is left. -/
def signedUtf8Units (bytes : List UInt8) : List (Option CodePoint) :=
  let mark : List UInt8 := [0xEF, 0xBB, 0xBF]
  if bytes.isPrefixOf mark then []
  else units (utf8Unit false) (if mark.isPrefixOf bytes then bytes.drop 3 else bytes)

/-- The UTF-8 bytes of one code point. A surrogate is encoded like the numbers around it. -/
def utf8Bytes (c : CodePoint) : List UInt8 :=
  let n := c.val
  let tail (unit : Nat) : UInt8 := UInt8.ofNat (0x80 + n / unit % 64)
  if n < 0x80 then [UInt8.ofNat n]
  else if n < 0x800 then [UInt8.ofNat (0xC0 + n / 64), tail 1]
  else if n < 0x10000 then [UInt8.ofNat (0xE0 + n / 4096), tail 64, tail 1]
  else [UInt8.ofNat (0xF0 + n / 262144), tail 4096, tail 64, tail 1]

/-- The UTF-8 bytes of a text. -/
def toUtf8 (t : Text) : List UInt8 := t.flatMap utf8Bytes

end BigO.Text
