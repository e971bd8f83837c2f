import BigO.Text.Decoding

/-! Charsets in which a backslash begins an escape and every other byte is the code point with its
number. -/

namespace BigO.Text.Escaped

/-- Reads a fixed number of hexadecimal digits, of which `taken` bytes of the escape stand before.
What goes wrong takes the bytes up to the first that is no digit. -/
def number (value taken : Nat) : (digits : Nat) → List UInt8 → Option CodePoint × Nat
  | 0, _ => (if value < 0x110000 then some (CodePoint.ofNat value) else none, taken)
  | _ + 1, [] => (none, taken)
  | digits + 1, b :: rest =>
    match hexDigit? (CodePoint.ofNat b.toNat) with
    | some d => number (value * 16 + d) (taken + 1) digits rest
    | none => (none, taken)

/-- The value of a run of octal digits. -/
def octal (digits : List UInt8) : Nat := digits.foldl (fun n b => n * 8 + (b.toNat - 0x30)) 0

/-- The octal digits of ASCII. -/
def isOctal (b : UInt8) : Bool := 0x30 ≤ b.toNat && b.toNat ≤ 0x37

/-- What the letter behind a backslash stands for: nothing at all, a code point, or no escape. -/
def simple? (b : UInt8) : Option (List CodePoint) :=
  ([('\n', []), ('\\', [0x5C]), ('\'', [0x27]), ('"', [0x22]), ('a', [0x07]), ('b', [0x08]),
    ('f', [0x0C]), ('n', [0x0A]), ('r', [0x0D]), ('t', [0x09]), ('v', [0x0B])].find? fun e =>
      e.1.toNat = b.toNat).map fun e => e.2.map CodePoint.ofNat

/-- The unit of an escape by a number with this many digits. -/
def numbered (digits : Nat) (rest : List UInt8) : List (Option CodePoint) × Nat :=
  let (unit, taken) := number 0 2 digits rest
  ([unit], taken)

/-- An escape by name. No name is known, so it takes the braces with all between them. -/
def named (rest : List UInt8) : List (Option CodePoint) × Nat :=
  match rest with
  | b :: rest =>
    if b.toNat = 0x7B then
      let name := rest.takeWhile fun b => b.toNat ≠ 0x7D
      if name.length = rest.length then ([none], 3 + name.length)
      else ([none], 3 + name.length + (if name.isEmpty then 0 else 1))
    else ([none], 2)
  | [] => ([none], 2)

/-- What an escape stands for, and how many bytes it takes with its backslash. -/
def escape : List UInt8 → List (Option CodePoint) × Nat
  | [] => ([none], 1)
  | b :: rest =>
    match simple? b with
    | some points => (points.map some, 2)
    | none =>
      if isOctal b then
        let digits := b :: (rest.take 2).takeWhile isOctal
        ([some (CodePoint.ofNat (octal digits))], 1 + digits.length)
      else if b.toNat = 0x78 then numbered 2 rest
      else if b.toNat = 0x75 then numbered 4 rest
      else if b.toNat = 0x55 then numbered 8 rest
      else if b.toNat = 0x4E then named rest
      else ([some '\\', some (CodePoint.ofNat b.toNat)], 2)

/-- What an escape stands for where only numbers are escaped. -/
def rawEscape : List UInt8 → List (Option CodePoint) × Nat
  | [] => ([some '\\'], 1)
  | b :: rest =>
    if b.toNat = 0x75 then numbered 4 rest
    else if b.toNat = 0x55 then numbered 8 rest
    else ([some '\\', some (CodePoint.ofNat b.toNat)], 2)

/-- Decodes from here on, behind the units `done` (the newest first). The next `skip` bytes belong
to the escape read last. -/
def unitsFrom (escape : List UInt8 → List (Option CodePoint) × Nat)
    (done : List (Option CodePoint)) : (skip : Nat) → List UInt8 → List (Option CodePoint)
  | _, [] => done.reverse
  | skip + 1, _ :: rest => unitsFrom escape done skip rest
  | 0, b :: rest =>
    if b.toNat = 0x5C then
      let (units, taken) := escape rest
      unitsFrom escape (units.reverse ++ done) (taken - 1) rest
    else unitsFrom escape (some (CodePoint.ofNat b.toNat) :: done) 0 rest

end Escaped

/-- Decodes bytes with escapes of all kinds. -/
def escapedUnits (bytes : List UInt8) : List (Option CodePoint) :=
  Escaped.unitsFrom Escaped.escape [] 0 bytes

/-- Decodes bytes in which only numbers are escaped. -/
def rawEscapedUnits (bytes : List UInt8) : List (Option CodePoint) :=
  Escaped.unitsFrom Escaped.rawEscape [] 0 bytes

end BigO.Text
