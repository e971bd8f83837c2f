import BigO.Text.Basic

/-! Readers. A reader looks at the front of a text and says what it reads there and how many code
points that takes. Readers are composed one behind the other; each sees the text that the earlier
ones left. -/

namespace BigO

/-- What is read at the front of a text, with the number of code points it takes. -/
def Reader (α : Type) := Text → Option (α × Nat)

namespace Reader

variable {α β : Type}

/-- Reads nothing and succeeds. -/
protected def pure (a : α) : Reader α := fun _ => some (a, 0)

/-- Reads with `r`, then with what `f` makes of the result. -/
protected def bind (r : Reader α) (f : α → Reader β) : Reader β := fun s =>
  match r s with
  | none => none
  | some (a, n) =>
    match f a (s.drop n) with
    | none => none
    | some (b, m) => some (b, n + m)

instance : Monad Reader where
  pure := Reader.pure
  bind := Reader.bind

/-- Reads nothing and fails. -/
def fail : Reader α := fun _ => none

/-- The first reader, or the second where the first fails. -/
def orElse (r r' : Reader α) : Reader α := fun s =>
  match r s with
  | none => r' s
  | some hit => some hit

/-- One code point of a class. -/
def one (p : CodePoint → Bool) : Reader CodePoint
  | [] => none
  | c :: _ => if p c then some (c, 1) else none

/-- This code point. -/
def char (c : Char) : Reader CodePoint := one (· = c)

/-- This very text. -/
def exactly (w : Text) : Reader Text := fun s =>
  if w.isPrefixOf s then some (w, w.length) else none

/-- The longest run of code points of a class, possibly empty. -/
def run (p : CodePoint → Bool) : Reader Text := fun s =>
  let w := s.takeWhile p
  some (w, w.length)

/-- The longest run of code points of a class, not empty. -/
def run1 (p : CodePoint → Bool) : Reader Text := fun s =>
  let w := s.takeWhile p
  if w.isEmpty then none else some (w, w.length)

/-- The longest run of code points of a class within the next `n`. -/
def runAtMost (n : Nat) (p : CodePoint → Bool) : Reader Text := fun s =>
  let w := (s.take n).takeWhile p
  some (w, w.length)

/-- Blanks, if there are any. -/
def blanks : Reader Text := run CodePoint.isBlank

/-- Reads with `r` if it can. -/
def optional (r : Reader α) : Reader Unit := fun s =>
  match r s with
  | none => some ((), 0)
  | some (_, n) => some ((), n)

/-- Reads nothing; fails where a code point of the class stands next. -/
def notBefore (p : CodePoint → Bool) : Reader Unit
  | [] => some ((), 0)
  | c :: _ => if p c then none else some ((), 0)

/-- A whole word of the list: the longest run of word characters is one of them. -/
def wordAmong (words : List Text) : Reader Text := do
  let w ← run1 CodePoint.isWord
  if words.contains w then Reader.pure w else fail

end Reader

end BigO
