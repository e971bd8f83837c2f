import BigO.Text.Reader

/-! Patterns and the left-to-right scan. A pattern is a reader that also knows the code point before
its position. Scanning a text with a pattern cuts it into pieces: at each position from the left the
pattern is tried, a token that it reads becomes a piece of its own and the scan goes on behind it;
where it reads none, the code point there is a piece. -/

namespace BigO

/-- A reader that knows which code point stands before its position; there is none at the start. -/
def Pattern (α : Type) := Option CodePoint → Reader α

/-- A piece of a scanned text: a code point in no token, or a token with its value and its text. -/
inductive Piece (α : Type) where
  | plain (c : CodePoint)
  | token (value : α) (covered : Text)

namespace Piece

variable {α : Type}

/-- The value of a token. -/
def value? : Piece α → Option α
  | .plain _ => none
  | .token a _ => some a

/-- The text that a piece covers. -/
def covered : Piece α → Text
  | .plain c => [c]
  | .token _ t => t

end Piece

namespace Pattern

variable {α : Type}

/-- A reader that is tried only where `ok` holds of the code point before. -/
def after (ok : Option CodePoint → Bool) (r : Reader α) : Pattern α := fun before =>
  if ok before then r else Reader.fail

/-- A reader that is tried everywhere. -/
def anywhere (r : Reader α) : Pattern α := fun _ => r

/-- The first pattern, or the second where the first reads nothing. -/
def orElse (p p' : Pattern α) : Pattern α := fun before => (p before).orElse (p' before)

/-- No word character stands before: where a word character comes next, a word begins. -/
def wordStart (before : Option CodePoint) : Bool := !before.any CodePoint.isWord

/-- The pieces from here on, behind the pieces `done` (the newest first). The next `skip` code
points belong to the token read last. -/
def piecesFrom (p : Pattern α) (done : List (Piece α)) :
    (skip : Nat) → (before : Option CodePoint) → Text → List (Piece α)
  | _, _, [] => done.reverse
  | skip + 1, _, c :: rest => piecesFrom p done skip (some c) rest
  | 0, before, c :: rest =>
    match p before (c :: rest) with
    | some (a, n + 1) => piecesFrom p (.token a (c :: rest.take n) :: done) n (some c) rest
    | _ => piecesFrom p (.plain c :: done) 0 (some c) rest

/-- The pieces of a text. -/
def pieces (p : Pattern α) (t : Text) : List (Piece α) := piecesFrom p [] 0 none t

/-- The values of the tokens in a text, from the left. -/
def tokens (p : Pattern α) (t : Text) : List α := (pieces p t).filterMap Piece.value?

/-- The text with each token replaced. -/
def replace (p : Pattern α) (f : Text → Text) (t : Text) : Text :=
  (pieces p t).flatMap fun
    | .plain c => [c]
    | .token _ covered => f covered

/-- The first token at or behind a position: its value, its last code point and the text behind
it. -/
def find? (p : Pattern α) :
    (before : Option CodePoint) → Text → Option (α × Option CodePoint × Text)
  | _, [] => none
  | before, c :: rest =>
    match p before (c :: rest) with
    | some (a, n) => some (a, ((c :: rest).take n).getLast?.or before, (c :: rest).drop n)
    | none => find? p (some c) rest

/-- The pattern reads a token somewhere in the text. -/
def occursIn (p : Pattern α) (t : Text) : Bool := (find? p none t).isSome

end Pattern

end BigO
