import BigO.Text.Decoding

/-! Charsets that have one byte for a code point. Such a charset is a table of the code points of
all bytes in order. -/

namespace BigO.Text

/-- The code points of the bytes in order. The mark for undecodable input stands for a byte that has
no code point. -/
structure ByteTable where
  points : Array CodePoint

namespace ByteTable

/-- The bytes below `start` are the code points with their numbers; the rows go on from there. -/
def ofRows (start : Nat) (rows : List String) : ByteTable :=
  ⟨((List.range start).map CodePoint.ofNat ++ rows.flatMap text).toArray⟩

/-- Each byte by itself. -/
def unit (t : ByteTable) : UnitDecoder
  | [] => (none, 1)
  | b :: _ => (t.points[b.toNat]?.bind CodePoint.ifAssigned, 1)

end ByteTable

end BigO.Text
