import BigO.Compression.Bits

/-! Prefix codes that are given by the lengths of their words. The words of one length are numbered
in the order of their symbols, and behind those of the shorter lengths. -/

namespace BigO.Compression

/-- A prefix code: how many words have each length, from one on, and the symbols in the order of
their words. -/
structure PrefixCode where
  counts : List Nat
  symbols : Array Nat

namespace PrefixCode

/-- The code in which the symbol with a number has a word of the length at that place. A length of
zero stands for no word. -/
def ofLengths (lengths : List Nat) : PrefixCode :=
  let used := (List.range (lengths.foldl max 0)).map (· + 1)
  let numbered := lengths.zipIdx
  { counts := used.map fun length => lengths.count length
    symbols := (used.flatMap fun length =>
      (numbered.filter fun entry => entry.1 = length).map (·.2)).toArray }

/-- The room that a code leaves for words of its greatest length. It is below zero where there are
too many words. -/
def slack (code : PrefixCode) : Int :=
  code.counts.foldl (fun (room : Int) (count : Nat) => 2 * room - count) 1

/-- The code has no words. -/
def isEmpty (code : PrefixCode) : Bool := code.symbols.isEmpty

/-- No word can be added. -/
def isComplete (code : PrefixCode) : Bool := code.slack == 0

/-- The code has a single word, of one bit. -/
def isSingle (code : PrefixCode) : Bool := code.counts == [1]

/-- What is found at the front of some bits. -/
inductive Found where
  | symbol (s : Nat) (rest : List Bool)
  | nothing
  | cut

/-- Looks for a word: `value` is the number that the bits so far make, `first` is the number of the
first word with one bit more if that bit is a zero, and `index` is the place of that word. -/
def findFrom (symbols : Array Nat) (value first index : Nat) : List Nat → List Bool → Found
  | [], _ => .nothing
  | _ :: _, [] => .cut
  | count :: counts, b :: bits =>
    let value := 2 * value + b.toNat
    if value < first + count then
      match symbols[index + (value - first)]? with
      | some s => .symbol s bits
      | none => .nothing
    else findFrom symbols value (2 * (first + count)) (index + count) counts bits

/-- Looks for a word at the front of some bits. A code without words takes a bit to find nothing. -/
def find (code : PrefixCode) (bits : List Bool) : Found :=
  findFrom code.symbols 0 0 0 (if code.isEmpty then [0] else code.counts) bits

end PrefixCode

end BigO.Compression
