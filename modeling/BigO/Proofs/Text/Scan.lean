import BigO.Text.Pattern

/-! The left-to-right scan as a recursion on the text: a piece in front, then the pieces of what is
behind it. The piece in front is a token where the pattern reads one and a single code point
elsewhere, so a fact about a scanned text is an induction with two cases. -/

namespace BigO

/-- The code point that is a piece of its own. -/
def Piece.plain? {α : Type} : Piece α → Option CodePoint
  | .plain c => some c
  | .token _ _ => none

/-- What becomes of a piece when tokens are replaced. -/
def Piece.replaced {α : Type} (f : Text → Text) : Piece α → Text
  | .plain c => [c]
  | .token _ covered => f covered

namespace Pattern

variable {α : Type} (p : Pattern α)

theorem piecesFrom_done (done : List (Piece α)) (skip : Nat) (before : Option CodePoint)
    (t : Text) :
    piecesFrom p done skip before t = done.reverse ++ piecesFrom p [] skip before t := by
  induction t generalizing done skip before with
  | nil => simp [piecesFrom]
  | cons c rest ih =>
      cases skip with
      | succ skip =>
          simp only [piecesFrom]
          exact ih done skip (some c)
      | zero =>
          simp only [piecesFrom]
          split
          · next a n _ =>
              rw [ih, ih [.token a (c :: rest.take n)]]
              simp
          · rw [ih, ih [.plain c]]
            simp

theorem after_eq_some {ok : Option CodePoint → Bool} {r : Reader α} {before : Option CodePoint}
    {t : Text} {a : α} {n : Nat} :
    after ok r before t = some (a, n) ↔ ok before ∧ r t = some (a, n) := by
  rw [after]
  by_cases h : ok before
  · rw [if_pos h]
    exact ⟨fun hread => ⟨h, hread⟩, And.right⟩
  · rw [if_neg h]
    constructor
    · intro hread
      cases hread
    · exact fun hread => absurd hread.1 h

/-- The code point before the position at which `w` is read. -/
def lastOf (w : Text) (before : Option CodePoint) : Option CodePoint := w.getLast?.or before

@[simp] theorem lastOf_nil (before : Option CodePoint) : lastOf [] before = before := rfl

@[simp] theorem lastOf_cons (c : CodePoint) (w : Text) (before : Option CodePoint) :
    lastOf (c :: w) before = lastOf w (some c) := by
  cases w with
  | nil => rfl
  | cons d w => simp [lastOf, List.getLast?_cons]

theorem lastOf_append (v w : Text) (before : Option CodePoint) :
    lastOf (v ++ w) before = lastOf w (lastOf v before) := by
  simp only [lastOf, List.getLast?_append, Option.or_assoc]

theorem piecesFrom_skip (skip : Nat) (before : Option CodePoint) (t : Text) :
    piecesFrom p [] skip before t =
      piecesFrom p [] 0 (lastOf (t.take skip) before) (t.drop skip) := by
  induction t generalizing skip before with
  | nil => simp [piecesFrom]
  | cons c rest ih =>
      cases skip with
      | zero => rfl
      | succ skip =>
          rw [List.take_succ_cons, List.drop_succ_cons, lastOf_cons, ← ih]
          rfl

/-- The pieces of a text that stands behind a code point. -/
def scan (before : Option CodePoint) (t : Text) : List (Piece α) := piecesFrom p [] 0 before t

theorem pieces_eq_scan (t : Text) : pieces p t = scan p none t := rfl

@[simp] theorem scan_nil (before : Option CodePoint) : scan p before [] = [] := rfl

variable {p}

/-- A token in front is the first piece, and the scan goes on behind it. -/
theorem scan_token {before : Option CodePoint} {c : CodePoint} {rest : Text} {a : α} {n : Nat}
    (h : p before (c :: rest) = some (a, n + 1)) :
    scan p before (c :: rest) =
      .token a (c :: rest.take n) :: scan p (lastOf (rest.take n) (some c)) (rest.drop n) := by
  rw [scan, piecesFrom, h]
  simp only
  rw [piecesFrom_done, piecesFrom_skip]
  rfl

/-- Where no token is in front, the code point there is the first piece. -/
theorem scan_plain {before : Option CodePoint} {c : CodePoint} {rest : Text}
    (h : ∀ a n, p before (c :: rest) ≠ some (a, n + 1)) :
    scan p before (c :: rest) = .plain c :: scan p (some c) rest := by
  rw [scan, piecesFrom]
  split
  · next a n hread => exact absurd hread (h a n)
  · rw [piecesFrom_done]
    rfl

theorem scan_none {before : Option CodePoint} {c : CodePoint} {rest : Text}
    (h : p before (c :: rest) = none) :
    scan p before (c :: rest) = .plain c :: scan p (some c) rest :=
  scan_plain fun _ _ hread => by rw [h] at hread; cases hread

variable (p)

/-- Induction along a scan. -/
theorem scan_induction {motive : Option CodePoint → Text → Prop}
    (nil : ∀ before, motive before [])
    (token : ∀ before c rest a n, p before (c :: rest) = some (a, n + 1) →
      motive (lastOf (rest.take n) (some c)) (rest.drop n) → motive before (c :: rest))
    (plain : ∀ before c rest, (∀ a n, p before (c :: rest) ≠ some (a, n + 1)) →
      motive (some c) rest → motive before (c :: rest))
    (before : Option CodePoint) (t : Text) : motive before t := by
  induction hlen : t.length using Nat.strongRecOn generalizing before t with
  | ind len ih =>
      cases t with
      | nil => exact nil before
      | cons c rest =>
          rw [List.length_cons] at hlen
          by_cases hread : ∃ a n, p before (c :: rest) = some (a, n + 1)
          · obtain ⟨a, n, hread⟩ := hread
            refine token before c rest a n hread (ih _ ?_ _ _ rfl)
            rw [List.length_drop]
            omega
          · refine plain before c rest (fun a n h => hread ⟨a, n, h⟩) (ih _ ?_ _ _ rfl)
            omega

/-- A token of the scan was read in front of some rest of the text. -/
theorem read_of_token_mem {before : Option CodePoint} {t : Text} {a : α} {w : Text}
    (h : Piece.token a w ∈ scan p before t) :
    ∃ before' c rest n, p before' (c :: rest) = some (a, n + 1) ∧ w = c :: rest.take n := by
  induction before, t using scan_induction p with
  | nil before => cases h
  | token before c rest b n hread ih =>
      rw [scan_token hread, List.mem_cons] at h
      rcases h with h | h
      · cases h
        exact ⟨before, c, rest, n, hread, rfl⟩
      · exact ih h
  | plain before c rest hread ih =>
      rw [scan_plain hread, List.mem_cons] at h
      rcases h with h | h
      · cases h
      · exact ih h

/-- The pieces cover the text. -/
theorem flatMap_covered_scan (before : Option CodePoint) (t : Text) :
    (scan p before t).flatMap Piece.covered = t := by
  induction before, t using scan_induction p with
  | nil before => rfl
  | token before c rest a n hread ih =>
      rw [scan_token hread, List.flatMap_cons, ih]
      simp [Piece.covered]
  | plain before c rest hread ih =>
      rw [scan_plain hread, List.flatMap_cons, ih]
      rfl

/-- There are at most as many tokens as code points. -/
theorem length_tokens_le (t : Text) : (tokens p t).length ≤ t.length := by
  rw [tokens, pieces_eq_scan]
  generalize (none : Option CodePoint) = before
  induction before, t using scan_induction p with
  | nil before => simp
  | token before c rest a n hread ih =>
      rw [scan_token hread]
      simp only [List.filterMap_cons, Piece.value?, List.length_cons]
      rw [List.length_drop] at ih
      omega
  | plain before c rest hread ih =>
      rw [scan_plain hread]
      simp only [List.filterMap_cons, Piece.value?, List.length_cons]
      omega

/-! ### The tokens of a text -/

/-- The values of the tokens in a text that stands behind a code point. -/
def tokensFrom (before : Option CodePoint) (t : Text) : List α :=
  (scan p before t).filterMap Piece.value?

theorem tokens_eq_tokensFrom (t : Text) : tokens p t = tokensFrom p none t := rfl

@[simp] theorem tokensFrom_nil (before : Option CodePoint) : tokensFrom p before [] = [] := rfl

variable {p}

theorem tokensFrom_token {before : Option CodePoint} {c : CodePoint} {rest : Text} {a : α} {n : Nat}
    (h : p before (c :: rest) = some (a, n + 1)) :
    tokensFrom p before (c :: rest) =
      a :: tokensFrom p (lastOf (rest.take n) (some c)) (rest.drop n) := by
  rw [tokensFrom, scan_token h]
  rfl

theorem tokensFrom_plain {before : Option CodePoint} {c : CodePoint} {rest : Text}
    (h : ∀ a n, p before (c :: rest) ≠ some (a, n + 1)) :
    tokensFrom p before (c :: rest) = tokensFrom p (some c) rest := by
  rw [tokensFrom, scan_plain h]
  rfl

theorem tokensFrom_none {before : Option CodePoint} {c : CodePoint} {rest : Text}
    (h : p before (c :: rest) = none) :
    tokensFrom p before (c :: rest) = tokensFrom p (some c) rest :=
  tokensFrom_plain fun _ _ hread => by rw [h] at hread; cases hread

/-- What stands before a text matters for what the pattern reads in front of it only. -/
theorem tokensFrom_congr {before before' : Option CodePoint} (h : p before = p before')
    (t : Text) : tokensFrom p before t = tokensFrom p before' t := by
  cases t with
  | nil => rfl
  | cons c rest =>
      by_cases hread : ∃ a n, p before (c :: rest) = some (a, n + 1)
      · obtain ⟨a, n, hread⟩ := hread
        rw [tokensFrom_token hread, tokensFrom_token (h ▸ hread)]
      · have hplain : ∀ a n, p before (c :: rest) ≠ some (a, n + 1) :=
          fun a n hread' => hread ⟨a, n, hread'⟩
        rw [tokensFrom_plain hplain, tokensFrom_plain (h ▸ hplain)]

variable (p)

/-! ### Replacing tokens -/

/-- A text that stands behind a code point, with each token replaced. -/
def replaceFrom (f : Text → Text) (before : Option CodePoint) (t : Text) : Text :=
  (scan p before t).flatMap (Piece.replaced f)

theorem replace_eq_replaceFrom (f : Text → Text) (t : Text) :
    replace p f t = replaceFrom p f none t := by
  rw [replace, replaceFrom, pieces_eq_scan]
  rfl

@[simp] theorem replaceFrom_nil (f : Text → Text) (before : Option CodePoint) :
    replaceFrom p f before [] = [] := rfl

variable {p}

theorem replaceFrom_token {f : Text → Text} {before : Option CodePoint} {c : CodePoint}
    {rest : Text} {a : α} {n : Nat} (h : p before (c :: rest) = some (a, n + 1)) :
    replaceFrom p f before (c :: rest) =
      f (c :: rest.take n) ++ replaceFrom p f (lastOf (rest.take n) (some c)) (rest.drop n) := by
  rw [replaceFrom, scan_token h]
  rfl

theorem replaceFrom_plain {f : Text → Text} {before : Option CodePoint} {c : CodePoint}
    {rest : Text} (h : ∀ a n, p before (c :: rest) ≠ some (a, n + 1)) :
    replaceFrom p f before (c :: rest) = c :: replaceFrom p f (some c) rest := by
  rw [replaceFrom, scan_plain h]
  rfl

theorem replaceFrom_none {f : Text → Text} {before : Option CodePoint} {c : CodePoint}
    {rest : Text} (h : p before (c :: rest) = none) :
    replaceFrom p f before (c :: rest) = c :: replaceFrom p f (some c) rest :=
  replaceFrom_plain fun _ _ hread => by rw [h] at hread; cases hread

/-- What the pattern reads does not depend on what stands before. -/
def IgnoresBefore (p : Pattern α) : Prop := ∀ before before', p before = p before'

theorem IgnoresBefore.replaceFrom_eq (hp : IgnoresBefore p) (f : Text → Text)
    (before : Option CodePoint) (t : Text) : replaceFrom p f before t = replace p f t := by
  rw [replace_eq_replaceFrom]
  generalize hother : (none : Option CodePoint) = other
  clear hother
  induction before, t using scan_induction p generalizing other with
  | nil before => rfl
  | token before c rest a n hread ih =>
      rw [replaceFrom_token hread, replaceFrom_token (hp before other ▸ hread)]
  | plain before c rest hread ih =>
      rw [replaceFrom_plain hread, replaceFrom_plain (hp before other ▸ hread)]

/-- Replacing tokens by texts that are no longer does not lengthen the text. -/
theorem length_replace_le {f : Text → Text} {t : Text}
    (h : ∀ a w, Piece.token a w ∈ pieces p t → (f w).length ≤ w.length) :
    (replace p f t).length ≤ t.length := by
  rw [pieces_eq_scan] at h
  rw [replace_eq_replaceFrom, replaceFrom,
    ← congrArg List.length (flatMap_covered_scan p none t)]
  generalize scan p none t = pieces at h
  induction pieces with
  | nil => simp
  | cons piece pieces ih =>
      have hpieces := ih fun a w hw => h a w (List.mem_cons_of_mem _ hw)
      have hpiece : (Piece.replaced f piece).length ≤ piece.covered.length := by
        cases piece with
        | plain c => exact Nat.le_refl _
        | token a w => exact h a w List.mem_cons_self
      simp only [List.flatMap_cons, List.length_append]
      omega

end Pattern

end BigO
