import BigO.Compression.Deflate

/-! The two wrappings of deflated data. Each has a header before the data and a check of the bytes
behind it; one of them also tells how many bytes there are. -/

namespace BigO.Compression

/-- One step of the cyclic redundancy check. -/
def crcStep (crc : UInt32) : UInt32 :=
  if crc &&& 1 = 1 then (crc >>> 1) ^^^ 0xEDB88320 else crc >>> 1

/-- The cyclic redundancy check with one byte more. -/
def crcByte (crc : UInt32) (b : UInt8) : UInt32 :=
  crcStep (crcStep (crcStep (crcStep (crcStep (crcStep (crcStep (crcStep
    (crc ^^^ b.toUInt32))))))))

/-- The cyclic redundancy check of 32 bits. -/
def crc32 (bytes : Array UInt8) : Nat := (bytes.foldl crcByte 0xFFFFFFFF ^^^ 0xFFFFFFFF).toNat

/-- The two sums of Adler's check, each by the largest prime below 65536. -/
def adler32 (bytes : Array UInt8) : Nat :=
  let sums := bytes.foldl (fun (a, b) byte =>
    let a := (a + byte.toNat) % 65521
    (a, (b + a) % 65521)) (1, 0)
  sums.2 * 65536 + sums.1

/-- The number in some bytes, the lowest first. -/
def littleEndian (bytes : List UInt8) : Nat := bytes.foldr (fun b n => b.toNat + 256 * n) 0

/-- The number in the first bytes, and the bytes behind them. -/
def takeNumber (width : Nat) (bytes : List UInt8) : Option (Nat × List UInt8) :=
  if bytes.length < width then none
  else some (littleEndian (bytes.take width), bytes.drop width)

namespace Gzip

/-- The bytes behind a name that ends in a zero. -/
def skipName (bytes : List UInt8) : Option (List UInt8) :=
  match bytes.dropWhile (· ≠ 0) with
  | [] => none
  | _ :: rest => some rest

/-- The bytes behind an extra part, whose length comes first. -/
def skipExtra (bytes : List UInt8) : Option (List UInt8) := do
  let (length, rest) ← takeNumber 2 bytes
  if rest.length < length then none else some (rest.drop length)

/-- A header up to the flags, and the other parts that the flags tell of. Nothing where it is cut.
-/
def skipParts (flags : Nat) (bytes : List UInt8) : Option (List UInt8) := do
  let (_, rest) ← takeNumber 6 bytes
  let rest ← if flags.testBit 2 then skipExtra rest else some rest
  let rest ← if flags.testBit 3 then skipName rest else some rest
  if flags.testBit 4 then skipName rest else some rest

/-- The bytes behind the header. Nothing where it is cut. -/
def skipHeader (bytes : List UInt8) : Except Corruption (Option (List UInt8)) := do
  let some (mark, rest) := takeNumber 2 bytes | return none
  if mark ≠ 0x8B1F then throw .header
  let some (start, rest) := takeNumber 2 rest | return none
  let flags := start / 256
  if start % 256 ≠ 8 then throw .method
  if 32 ≤ flags then throw .headerFlags
  let some rest := skipParts flags rest | return none
  if !flags.testBit 1 then return some rest
  let some (check, behind) := takeNumber 2 rest | return none
  let header := bytes.take (bytes.length - rest.length)
  if crc32 header.toArray % 65536 ≠ check then throw .headerCheck
  return some behind

/-- The bytes in wrapped data. Data that is cut gives the bytes up to there. -/
def unwrap (bytes : List UInt8) : Except Corruption (List UInt8) := do
  let some deflated ← skipHeader bytes | return []
  let inflated ← Deflate.inflate deflated
  let output := inflated.output.toList
  let some (check, rest) := inflated.rest.bind (takeNumber 4) | return output
  if crc32 inflated.output ≠ check then throw .dataCheck
  let some (length, _) := takeNumber 4 rest | return output
  if inflated.output.size % 4294967296 ≠ length then throw .dataLength
  return output

end Gzip

namespace Zlib

/-- The bytes in wrapped data. Data that is cut gives the bytes up to there. Nothing where the data
is corrupt or needs a dictionary. -/
def unwrap? (bytes : List UInt8) : Option (List UInt8) :=
  match bytes with
  | first :: second :: deflated =>
    let start := first.toNat * 256 + second.toNat
    if start % 31 ≠ 0 ∨ first.toNat % 16 ≠ 8 ∨ 8 ≤ first.toNat / 16 then none
    else if second.toNat.testBit 5 then
      if deflated.length < 4 then some [] else none
    else
      match Deflate.inflate deflated with
      | .error _ => none
      | .ok inflated =>
        match inflated.rest.bind fun rest => takeNumber 4 (rest.take 4).reverse with
        | some (check, _) =>
          if adler32 inflated.output = check then some inflated.output.toList else none
        | none => some inflated.output.toList
  | _ => some []

end Zlib

end BigO.Compression
