import BigO.Text.Charset.Ksx1001

/-! The charsets of Korean. All have the pairs of KS X 1001, which lacks most syllables; they write
the others in three ways. -/

namespace BigO.Text

namespace Hangul

/-- The letters that begin a syllable. -/
def initials : List Char := "ㄱㄲㄴㄷㄸㄹㅁㅂㅃㅅㅆㅇㅈㅉㅊㅋㅌㅍㅎ".toList

/-- The letters that may end a syllable. -/
def finals : List Char := "ㄱㄲㄳㄴㄵㄶㄷㄹㄺㄻㄼㄽㄾㄿㅀㅁㅂㅄㅅㅆㅇㅈㅊㅋㅌㅍㅎ".toList

/-- The first vowel; the others follow it. -/
def firstVowel : Nat := 0x314F

/-- The first of the letters in KS X 1001, consonants before vowels. -/
def firstLetter : Nat := 0x3131

/-- The first syllable and their number. -/
def firstSyllable : Nat := 0xAC00

/-- How many syllables there are. -/
def syllableCount : Nat := 11172

/-- The syllable of an initial, a vowel and a final, of which zero is none. -/
def syllable (initial vowel final : Nat) : CodePoint :=
  CodePoint.ofNat (firstSyllable + initial * 588 + vowel * 28 + final)

/-- The number of a letter in a list. -/
def letterNumber? (letters : List Char) (letter : Nat) : Option Nat :=
  letters.findIdx? (·.toNat = letter)

end Hangul

open Hangul

/-- The pairs of KS X 1001. -/
def ksx1001Pair (a b : Nat) : Option CodePoint := Cells.ksx1001.square? (a - 0x80) (b - 0x80)

/-- The syllable that EUC-KR writes with the filler before the letters: each letter is a pair of
KS X 1001 with the same first byte. -/
def madeUpSyllable (initial vowel final : Nat) : Option CodePoint := do
  let letter (b : Nat) : Option Nat :=
    if 0xA1 ≤ b ∧ b ≤ 0xBE then some (firstLetter + (b - 0xA1)) else none
  let i ← (letter initial).bind (letterNumber? initials)
  let v ← if 0xBF ≤ vowel ∧ vowel ≤ 0xD3 then some (vowel - 0xBF) else none
  let f ← if final = 0xD4 then some 0
    else ((letter final).bind (letterNumber? finals)).map (· + 1)
  return syllable i v f

/-- A step in EUC-KR. -/
def eucKrStep : List UInt8 → Step Unit
  | a :: b :: rest =>
    if a.toNat = 0xA4 ∧ b.toNat = 0xD4 then
      match rest with
      | c :: d :: e :: f :: g :: h :: _ =>
        if c.toNat = 0xA4 ∧ e.toNat = 0xA4 ∧ g.toNat = 0xA4 then
          .ofPoints () 8 (madeUpSyllable d.toNat f.toNat h.toNat).toList
        else .wrong () 1
      | _ => .cut ()
    else pairStep asciiSingle (fun a b => (ksx1001Pair a b).toList) (a :: b :: rest)
  | bytes => pairStep asciiSingle (fun a b => (ksx1001Pair a b).toList) bytes

/-- Which syllables are in KS X 1001. -/
def inKsx1001 : Array Bool :=
  Cells.ksx1001.points.foldl (fun marks c =>
    if firstSyllable ≤ c.val then marks.setIfInBounds (c.val - firstSyllable) true else marks)
    (Array.replicate syllableCount false)

/-- The other syllables in order. -/
def otherSyllables : Array CodePoint :=
  (((List.range syllableCount).filter fun n => !inKsx1001.getD n true).map fun n =>
    CodePoint.ofNat (firstSyllable + n)).toArray

/-- The second bytes of the code page 949. -/
def windows949Seconds : List (Nat × Nat) := [(0x41, 0x5A), (0x61, 0x7A), (0x81, 0xFE)]

/-- The pairs that the code page 949 adds: the other syllables in order, first behind first bytes
below those of KS X 1001, then behind these with second bytes below those of KS X 1001. -/
def windows949Outside (a b : Nat) : Option CodePoint := do
  let n ← numberIn b windows949Seconds
  if 0x81 ≤ a ∧ a ≤ 0xA0 then otherSyllables[(a - 0x81) * 178 + n]?
  else if 0xA1 ≤ a ∧ a ≤ 0xC6 ∧ n < 84 then otherSyllables[0x20 * 178 + (a - 0xA1) * 84 + n]?
  else none

/-- The pairs of the code page 949. -/
def windows949Pair (a b : Nat) : Option CodePoint := ksx1001Pair a b <|> windows949Outside a b

namespace Johab

/-- The part of a syllable that five bits stand for: it is left out, or is the letter with a number.
-/
inductive Part where
  | filler
  | letter (number : Nat)

/-- The initial of some bits. -/
def initial? (bits : Nat) : Option Part :=
  if bits = 1 then some .filler
  else (numberIn bits [(2, 20)]).map .letter

/-- The vowel of some bits. -/
def vowel? (bits : Nat) : Option Part :=
  if bits = 2 then some .filler
  else (numberIn bits [(3, 7), (10, 15), (18, 23), (26, 29)]).map .letter

/-- The final of some bits. -/
def final? (bits : Nat) : Option Part :=
  if bits = 1 then some .filler
  else (numberIn bits [(2, 17), (19, 29)]).map .letter

/-- What three parts stand for: a syllable, a single letter, or a blank. -/
def compose : Part → Part → Part → Option CodePoint
  | .filler, .filler, .filler => some (CodePoint.ofNat 0x3000)
  | .filler, .filler, .letter f => (finals[f]?).map CodePoint.ofChar
  | .filler, .letter v, .filler => some (CodePoint.ofNat (firstVowel + v))
  | .letter i, .filler, .filler => (initials[i]?).map CodePoint.ofChar
  | .letter i, .letter v, .filler => some (syllable i v 0)
  | .letter i, .letter v, .letter f => some (syllable i v (f + 1))
  | _, _, _ => none

/-- A syllable or letter in a pair: a set bit, and five bits for each part. -/
def hangul? (a b : Nat) : Option CodePoint := do
  let bits := a * 256 + b
  compose (← initial? (bits / 1024 % 32)) (← vowel? (bits / 32 % 32)) (← final? (bits % 32))

/-- A symbol or ideograph in a pair. Each first byte has two rows of KS X 1001. -/
def other? (a b : Nat) : Option CodePoint := do
  let n ← numberIn b [(0x31, 0x7E), (0x91, 0xFE)]
  if a < 0xD9 ∨ a = 0xDF ∨ 0xF9 < a ∨ (a = 0xDA ∧ 0xA1 ≤ b ∧ b ≤ 0xD3) then none
  else
    let row := (if a < 0xE0 then 2 * (a - 0xD9) else 2 * a - 0x197) + n / 94
    Cells.ksx1001.square? (row + 0x21) (n % 94 + 0x21)

end Johab

/-- The pairs of Johab. -/
def johabPair (a b : Nat) : Option CodePoint :=
  if a < 0xD8 then Johab.hangul? a b else Johab.other? a b

end BigO.Text
