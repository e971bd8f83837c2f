import BigO.Compression.Wrapping
import BigO.Text.Basic

/-! The codings that the bytes of a body may have. -/

namespace BigO

/-- A coding of bytes. -/
inductive ContentCoding where
  | identity
  | gzip
  /-- Deflated data, which should be wrapped and often is not. -/
  | deflate
deriving DecidableEq

namespace ContentCoding

/-- The coding of a name in lower case, if it is a known one. -/
def ofName? (name : Text) : Option ContentCoding :=
  if name = text "identity" then some .identity
  else if name = text "gzip" then some .gzip
  else if name = text "deflate" then some .deflate
  else none

/-- The bytes that coded ones stand for. -/
def decode (coding : ContentCoding) (bytes : List UInt8) :
    Except Compression.Corruption (List UInt8) :=
  match coding with
  | .identity => .ok bytes
  | .gzip => Compression.Gzip.unwrap bytes
  | .deflate =>
    match Compression.Zlib.unwrap? bytes with
    | some output => .ok output
    | none => (Compression.Deflate.inflate bytes).map (·.output.toList)

end ContentCoding

end BigO
