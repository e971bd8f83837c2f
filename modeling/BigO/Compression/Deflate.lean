import BigO.Compression.PrefixCode

/-! The deflate format: blocks of bytes as they are, or of symbols of prefix codes that stand for
bytes and for copies of what came before. -/

namespace BigO.Compression

/-- What is wrong with compressed data. -/
inductive Corruption where
  | header
  | method
  | headerFlags
  | headerCheck
  | blockKind
  | storedLength
  | symbolCounts
  | lengthCode
  | lengthRepeat
  | noBlockEnd
  | literalLengths
  | distanceLengths
  | literal
  | distance
  | farDistance
  | dataCheck
  | dataLength
deriving DecidableEq

/-- The wording. -/
def Corruption.message : Corruption → String
  | .header => "incorrect header check"
  | .method => "unknown compression method"
  | .headerFlags => "unknown header flags set"
  | .headerCheck => "header crc mismatch"
  | .blockKind => "invalid block type"
  | .storedLength => "invalid stored block lengths"
  | .symbolCounts => "too many length or distance symbols"
  | .lengthCode => "invalid code lengths set"
  | .lengthRepeat => "invalid bit length repeat"
  | .noBlockEnd => "invalid code -- missing end-of-block"
  | .literalLengths => "invalid literal/lengths set"
  | .distanceLengths => "invalid distances set"
  | .literal => "invalid literal/length code"
  | .distance => "invalid distance code"
  | .farDistance => "invalid distance too far back"
  | .dataCheck => "incorrect data check"
  | .dataLength => "incorrect length check"

namespace Deflate

/-- How far the reading of compressed data is: the bits to come, and the bytes so far. -/
structure Progress where
  bits : List Bool
  output : Array UInt8 := #[]

/-- Why the reading stops: the data ends, which leaves the bytes so far, or it is corrupt. -/
inductive Halt where
  | cut
  | corrupt (what : Corruption)

/-- A reading that may stop. -/
abbrev Reading := ExceptT Halt (StateM Progress)

/-- Stops at something wrong. -/
def reject {α : Type} (what : Corruption) : Reading α := throw (.corrupt what)

/-- Reads the number in a field. -/
def field (width : Nat) : Reading Nat := do
  match takeField width (← get).bits with
  | some (n, rest) =>
    modify fun p => { p with bits := rest }
    return n
  | none => throw .cut

/-- Reads the word of a symbol. -/
def symbol (code : PrefixCode) (otherwise : Corruption) : Reading Nat := do
  match code.find (← get).bits with
  | .symbol s rest =>
    modify fun p => { p with bits := rest }
    return s
  | .nothing => reject otherwise
  | .cut => throw .cut

/-- Writes a byte. -/
def emit (b : UInt8) : Reading Unit := modify fun p => { p with output := p.output.push b }

/-- The least length that each symbol behind the end of the block stands for, and how many bits tell
what is added to it. -/
def lengthRanges : Array (Nat × Nat) := #[
  (3, 0), (4, 0), (5, 0), (6, 0), (7, 0), (8, 0), (9, 0), (10, 0), (11, 1), (13, 1), (15, 1),
  (17, 1), (19, 2), (23, 2), (27, 2), (31, 2), (35, 3), (43, 3), (51, 3), (59, 3), (67, 4), (83, 4),
  (99, 4), (115, 4), (131, 5), (163, 5), (195, 5), (227, 5), (258, 0)]

/-- The least distance that each symbol stands for, and how many bits tell what is added to it. -/
def distanceRanges : Array (Nat × Nat) := #[
  (1, 0), (2, 0), (3, 0), (4, 0), (5, 1), (7, 1), (9, 2), (13, 2), (17, 3), (25, 3), (33, 4),
  (49, 4), (65, 5), (97, 5), (129, 6), (193, 6), (257, 7), (385, 7), (513, 8), (769, 8), (1025, 9),
  (1537, 9), (2049, 10), (3073, 10), (4097, 11), (6145, 11), (8193, 12), (12289, 12), (16385, 13),
  (24577, 13)]

/-- Reads a number whose symbol stands for a range. -/
def ranged (ranges : Array (Nat × Nat)) (s : Nat) (otherwise : Corruption) : Reading Nat :=
  match ranges[s]? with
  | some (least, width) => return least + (← field width)
  | none => reject otherwise

/-- Some bytes with copies behind them, each of the byte that stands `distance` before it. -/
def copyFrom (distance : Nat) : (length : Nat) → Array UInt8 → Array UInt8
  | 0, output => output
  | length + 1, output =>
    copyFrom distance length (output.push (output.getD (output.size - distance) 0))

/-- The symbol that ends a block. -/
def blockEnd : Nat := 256

/-- Reads the symbols of a block. Each takes at least one of `steps` bits. -/
def symbols (literals distances : PrefixCode) : (steps : Nat) → Reading Unit
  | 0 => throw .cut
  | steps + 1 => do
    let s ← symbol literals .literal
    if s < blockEnd then
      emit (UInt8.ofNat s)
      symbols literals distances steps
    else if s ≠ blockEnd then
      let length ← ranged lengthRanges (s - blockEnd - 1) .literal
      let distance ← ranged distanceRanges (← symbol distances .distance) .distance
      if (← get).output.size < distance then reject .farDistance
      modify fun p => { p with output := copyFrom distance length p.output }
      symbols literals distances steps

/-- The code of the literals in a block that brings no codes. -/
def fixedLiterals : PrefixCode :=
  .ofLengths (List.replicate 144 8 ++ List.replicate 112 9 ++ List.replicate 24 7 ++
    List.replicate 8 8)

/-- The code of the distances in a block that brings no codes. -/
def fixedDistances : PrefixCode := .ofLengths (List.replicate 32 5)

/-- Reads bytes as they are. -/
def storedBytes : (count : Nat) → Reading Unit
  | 0 => return
  | count + 1 => do
    emit (UInt8.ofNat (← field 8))
    storedBytes count

/-- Reads a block of bytes as they are. Their number stands before them twice, the second time with
all bits turned. -/
def stored : Reading Unit := do
  modify fun p => { p with bits := wholeBytes p.bits }
  let lengths ← field 32
  if lengths % 65536 + lengths / 65536 ≠ 65535 then reject .storedLength
  storedBytes (lengths % 65536)

/-- The order in which the lengths of the words for lengths come. -/
def lengthOrder : List Nat := [16, 17, 18, 0, 8, 7, 9, 6, 10, 5, 11, 4, 12, 3, 13, 2, 14, 1, 15]

/-- Reads a number of fields of three bits. -/
def shortFields : (count : Nat) → Reading (List Nat)
  | 0 => return []
  | count + 1 => return (← field 3) :: (← shortFields count)

/-- Reads the lengths of words until there are `count` of them; `done` has the newest first. The
symbol 16 repeats the last length, and the symbols behind it repeat zero. A code without words has
the word of zero for any bit. -/
def wordLengths (code : PrefixCode) (count : Nat) (done : List Nat) :
    (steps : Nat) → Reading (List Nat)
  | 0 => return done.reverse
  | steps + 1 => do
    if count ≤ done.length then return done.reverse
    let s ← if code.isEmpty then (do let _ ← field 1; return 0) else symbol code .lengthCode
    if s < 16 then wordLengths code count (s :: done) steps
    else
      let times ← if s = 16 then (do return 3 + (← field 2))
        else if s = 17 then (do return 3 + (← field 3))
        else (do return 11 + (← field 7))
      match if s = 16 then done.head? else some 0 with
      | none => reject .lengthRepeat
      | some length =>
        if count < done.length + times then reject .lengthRepeat
        wordLengths code count (List.replicate times length ++ done) steps

/-- Reads the codes that a block brings: of the literals and of the distances. -/
def codes : Reading (PrefixCode × PrefixCode) := do
  let literalCount := 257 + (← field 5)
  let distanceCount := 1 + (← field 5)
  let shortCount := 4 + (← field 4)
  if 286 < literalCount ∨ 30 < distanceCount then reject .symbolCounts
  let short ← shortFields shortCount
  let lengthCode := PrefixCode.ofLengths ((List.range 19).map fun s =>
    ((lengthOrder.zip short).lookup s).getD 0)
  if !lengthCode.isEmpty && !lengthCode.isComplete then reject .lengthCode
  let count := literalCount + distanceCount
  let lengths ← wordLengths lengthCode count [] (count + 1)
  if lengths.getD blockEnd 0 = 0 then reject .noBlockEnd
  let literals := PrefixCode.ofLengths (lengths.take literalCount)
  let distances := PrefixCode.ofLengths (lengths.drop literalCount)
  if !literals.isComplete && !literals.isSingle then reject .literalLengths
  if !distances.isEmpty && !distances.isComplete && !distances.isSingle then reject .distanceLengths
  return (literals, distances)

/-- Reads a block and tells whether it is the last one. -/
def block : Reading Bool := do
  let start ← field 3
  let steps := (← get).bits.length
  match start / 2 with
  | 0 => stored
  | 1 => symbols fixedLiterals fixedDistances steps
  | 2 => do
    let (literals, distances) ← codes
    symbols literals distances steps
  | _ => reject .blockKind
  return start % 2 == 1

/-- Reads blocks up to the last one. Each takes at least one of `steps` bits. -/
def blocks : (steps : Nat) → Reading Unit
  | 0 => throw .cut
  | steps + 1 => do
    if !(← block) then blocks steps

/-- What compressed data holds: the bytes, and the bytes behind the data if it is whole. -/
structure Inflated where
  output : Array UInt8
  rest : Option (List UInt8)

/-- Reads compressed data. Data that is cut gives the bytes up to there. -/
def inflate (bytes : List UInt8) : Except Corruption Inflated :=
  let bits := bitsOf bytes
  match (blocks (bits.length + 1)).run { bits } with
  | (.ok _, p) => .ok { output := p.output, rest := some (bytesOf (wholeBytes p.bits)) }
  | (.error .cut, p) => .ok { output := p.output, rest := none }
  | (.error (.corrupt what), _) => .error what

end Deflate

end BigO.Compression
