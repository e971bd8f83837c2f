/-! The bits of bytes, from the lowest bit of each byte to its highest, and the numbers that fields
of bits hold. -/

namespace BigO.Compression

/-- The lowest bits of a number, as many as asked for. -/
def lowBits : (count n : Nat) → List Bool
  | 0, _ => []
  | count + 1, n => (n % 2 == 1) :: lowBits count (n / 2)

/-- The bits of some bytes. -/
def bitsOf (bytes : List UInt8) : List Bool := bytes.flatMap fun b => lowBits 8 b.toNat

/-- The number in the first bits, and the bits behind them. There may be too few. -/
def takeField : (width : Nat) → List Bool → Option (Nat × List Bool)
  | 0, bits => some (0, bits)
  | _ + 1, [] => none
  | width + 1, b :: bits => (takeField width bits).map fun (n, rest) => (b.toNat + 2 * n, rest)

/-- The bits from the next byte on; all bits together are whole bytes. -/
def wholeBytes (bits : List Bool) : List Bool := bits.drop (bits.length % 8)

/-- The bytes of some bits, without an incomplete one at the end. -/
def bytesOf : List Bool → List UInt8
  | a :: b :: c :: d :: e :: f :: g :: h :: rest =>
    let n := [h, g, f, e, d, c, b, a].foldl (fun n bit => 2 * n + bit.toNat) 0
    UInt8.ofNat n :: bytesOf rest
  | _ => []

end BigO.Compression
