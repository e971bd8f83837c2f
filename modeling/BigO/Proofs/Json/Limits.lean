import Mathlib.Data.List.TakeWhile
import BigO.Json.Reader

/-! What is behind an error of the reader. It comes to an integer with too many digits only where so
many digits stand in a row, and to a container that is nested too deep only where more containers are
opened than there is room for. All other errors say that the text is malformed. -/

namespace BigO.Json

/-- The marks that open an array or an object. -/
def isOpening (c : CodePoint) : Bool := c = '[' || c = CodePoint.openBrace

/-- How many of these marks stand in a text. -/
def openings (t : Text) : Nat := t.countP isOpening

/-- What a text holds where its reading ends in an error, when `room` more containers may be opened
around what is read. -/
inductive Explains (room : Nat) (t : Text) : ReadError → Prop
  | malformed (fault : Fault) (position : Nat) : Explains room t (.malformed fault position)
  | tooManyDigits {digits : Text} (hrun : digits <:+: t) (hdigits : ∀ c ∈ digits, c.isDigit = true)
      (hmany : digitLimit < digits.length) : Explains room t (.tooManyDigits digits.length)
  | tooDeep (container : Container) (hopenings : room < openings t) :
      Explains room t (.tooDeep container)

/-- A reading leaves a rest of the text, or the text explains its error. -/
def Accounts {α : Type} (room : Nat) (t : Text) : Except ReadError (α × Cursor) → Prop
  | .error e => Explains room t e
  | .ok (_, behind) => behind.rest <:+ t

variable {α : Type} {room : Nat} {t t' : Text} {e : ReadError}

theorem Explains.of_suffix (h : Explains room t e) (ht : t <:+ t') : Explains room t' e := by
  cases h with
  | malformed fault position => exact .malformed fault position
  | tooManyDigits hrun hdigits hmany => exact .tooManyDigits (hrun.trans ht.isInfix) hdigits hmany
  | tooDeep container hopenings =>
    exact .tooDeep container (hopenings.trans_le ht.sublist.countP_le)

/-- Behind an opening mark there is room for one container less. -/
theorem Explains.behind_opening {x : CodePoint} (h : Explains room t e) (hx : isOpening x = true) :
    Explains (room + 1) (x :: t) e := by
  have hcount : openings (x :: t) = openings t + 1 := List.countP_cons_of_pos hx
  cases h with
  | malformed fault position => exact .malformed fault position
  | tooManyDigits hrun hdigits hmany =>
    exact .tooManyDigits (hrun.trans (List.suffix_cons x t).isInfix) hdigits hmany
  | tooDeep container hopenings => exact .tooDeep container (by omega)

theorem Accounts.of_suffix {result : Except ReadError (α × Cursor)} (h : Accounts room t result)
    (ht : t <:+ t') : Accounts room t' result := by
  cases result with
  | error e => exact Explains.of_suffix h ht
  | ok read => exact List.IsSuffix.trans h ht

theorem accounts_fault (c : Cursor) (fault : Fault) :
    Accounts (α := α) room t (c.fault fault) := .malformed fault c.position

theorem Cursor.advance_suffix (c : Cursor) (n : Nat) : (c.advance n).rest <:+ c.rest :=
  List.drop_suffix n c.rest

theorem Cursor.skipBlanks_suffix (c : Cursor) : c.skipBlanks.rest <:+ c.rest :=
  c.advance_suffix _

theorem accounts_stringFrom (start : Nat) (done : Text) (pairing : Bool) (position : Nat)
    (t : Text) : Accounts room t (stringFrom start done pairing position t) := by
  fun_induction stringFrom start done pairing position t with
  | case2 | case5 => exact List.suffix_cons _ _
  | case7 _ _ _ _ _ _ _ _ _ ih => exact ih.of_suffix (List.suffix_cons _ _)
  | case9 _ _ _ _ _ _ _ _ _ _ _ _ _ _ _ _ ih =>
    exact ih.of_suffix (List.suffix_append [_, _, _, _, _, _] _)
  | case12 _ _ _ _ _ _ _ _ _ _ _ _ ih => exact ih.of_suffix (List.suffix_append [_, _] _)
  | _ => exact .malformed _ _

theorem accounts_string? (c : Cursor) : Accounts room c.rest (string? c) :=
  (accounts_stringFrom _ _ _ _ _).of_suffix (List.drop_suffix 1 c.rest)

/-- Only the run of digits of an integer can be too long for a number. -/
theorem accounts_number? (c : Cursor) : Accounts room c.rest (number? c) := by
  unfold number?
  extract_lets negative unsigned whole behindWhole fraction fractionLength value
  have hunsigned : unsigned <:+ c.rest := by
    unfold unsigned
    split
    · exact List.drop_suffix 1 c.rest
    · exact List.suffix_refl c.rest
  have hwhole : whole <+: unsigned ∧ ∀ d ∈ whole, d.isDigit = true := by
    unfold whole
    cases unsigned with
    | nil => exact ⟨List.nil_prefix, List.forall_mem_nil _⟩
    | cons d rest =>
      simp only
      split
      · next hzero =>
        refine ⟨List.prefix_append [d] rest, List.forall_mem_singleton.mpr ?_⟩
        rw [hzero]
        decide
      · exact ⟨List.takeWhile_prefix _, fun d hd => List.mem_takeWhile_imp hd⟩
  split
  · exact accounts_fault c _
  · split
    extract_lets next
    split
    · split
      · next hmany =>
        exact .tooManyDigits (hwhole.1.isInfix.trans hunsigned.isInfix) hwhole.2 hmany
      · exact c.advance_suffix _
    · exact c.advance_suffix _

theorem accounts_scalar? (c : Cursor) : Accounts room c.rest (scalar? c) := by
  rw [scalar?]
  split
  · exact c.advance_suffix _
  · exact accounts_number? c

/-! ### Containers -/

/-- What is true of the readings that take so many steps. -/
structure AccountedWithin (steps : Nat) : Prop where
  value : ∀ room c, Accounts room c.rest (valueFrom steps room c)
  items : ∀ room done c, Accounts room c.rest (itemsFrom steps room done c)
  members : ∀ room done c, Accounts room c.rest (membersFrom steps room done c)

variable {steps : Nat}

section Opened

variable {x : CodePoint} {rest : Text} {c : Cursor} (hc : c.rest = x :: rest)
  (hx : isOpening x = true)

include hc hx

theorem explains_tooDeep (container : Container) : Explains 0 c.rest (.tooDeep container) := by
  have hcount : openings c.rest = openings rest + 1 := by
    rw [hc]
    exact List.countP_cons_of_pos hx
  exact .tooDeep container (by omega)

/-- A container is accounted for when what stands behind its opening mark is. -/
theorem accounts_container (close : CodePoint) (empty : Json)
    {result : Except ReadError (Json × Cursor)}
    (h : Accounts room (c.advance 1).skipBlanks.rest result) :
    Accounts (room + 1) c.rest
      (if (c.advance 1).skipBlanks.rest.head? = some close then
        .ok (empty, (c.advance 1).skipBlanks.advance 1)
      else result) := by
  have hinside : (c.advance 1).skipBlanks.rest <:+ rest := by
    have hbehind : (c.advance 1).rest = rest := congrArg (List.drop 1) hc
    exact hbehind ▸ (c.advance 1).skipBlanks_suffix
  rw [hc]
  split
  · exact (Cursor.advance_suffix _ 1).trans (hinside.trans (List.suffix_cons x rest))
  · cases result with
    | error e => exact (Explains.of_suffix h hinside).behind_opening hx
    | ok read => exact List.IsSuffix.trans h (hinside.trans (List.suffix_cons x rest))

end Opened

theorem accounts_valueFrom_succ (h : AccountedWithin steps) (room : Nat) (c : Cursor) :
    Accounts room c.rest (valueFrom (steps + 1) room c) := by
  rw [valueFrom.eq_def]
  simp only
  split
  · exact accounts_fault c _
  · next x rest hc =>
    split
    · have hstring : Accounts room c.rest (string? c) := accounts_string? c
      split
      · next e herror => rwa [herror] at hstring
      · next t d hread => rwa [hread] at hstring
    · split
      · next hx =>
        have hopening : isOpening x = true := by rw [hx]; decide
        cases room with
        | zero => exact explains_tooDeep hc hopening .array
        | succ room => exact accounts_container hc hopening _ _ (h.items room _ _)
      · split
        · next hx =>
          have hopening : isOpening x = true := by rw [hx]; decide
          cases room with
          | zero => exact explains_tooDeep hc hopening .object
          | succ room => exact accounts_container hc hopening _ _ (h.members room _ _)
        · exact accounts_scalar? c

/-- Behind an item or a member stands the mark that closes the container, or a comma. -/
theorem accounts_behind {d : Cursor} (hd : d.rest <:+ t) (close : CodePoint) (closed : Json)
    {next : Except ReadError (Json × Cursor)}
    (hnext : (d.advance 1).skipBlanks.rest <:+ t → Accounts room t next) :
    Accounts room t
      (match d.rest with
      | [] => d.fault .expectingComma
      | x :: _ =>
        if x = close then .ok (closed, d.advance 1)
        else if x = ',' then next
        else d.fault .expectingComma) := by
  have hbehind : (d.advance 1).rest <:+ t := (d.advance_suffix 1).trans hd
  split
  · exact accounts_fault d _
  · split
    · exact hbehind
    · split
      · exact hnext ((Cursor.skipBlanks_suffix _).trans hbehind)
      · exact accounts_fault d _

theorem accounts_itemsFrom_succ (h : AccountedWithin steps) (room : Nat) (done : List Json)
    (c : Cursor) : Accounts room c.rest (itemsFrom (steps + 1) room done c) := by
  rw [itemsFrom.eq_def]
  simp only
  have hvalue := h.value room c
  split
  · next e herror => rwa [herror] at hvalue
  · next value d hread =>
    rw [hread] at hvalue
    exact accounts_behind (d.skipBlanks_suffix.trans hvalue) _ _
      fun hnext => (h.items room _ _).of_suffix hnext

theorem accounts_membersFrom_succ (h : AccountedWithin steps) (room : Nat)
    (done : List (Text × Json)) (c : Cursor) :
    Accounts room c.rest (membersFrom (steps + 1) room done c) := by
  rw [membersFrom.eq_def]
  simp only
  split
  · have hname : Accounts room c.rest (string? c) := accounts_string? c
    split
    · next e herror => rwa [herror] at hname
    · next name d hread =>
      rw [hread] at hname
      split
      · have hcolon : (d.skipBlanks.advance 1).skipBlanks.rest <:+ c.rest :=
          (Cursor.skipBlanks_suffix _).trans
            ((d.skipBlanks.advance_suffix 1).trans (d.skipBlanks_suffix.trans hname))
        have hvalue := (h.value room (d.skipBlanks.advance 1).skipBlanks).of_suffix hcolon
        split
        · next e herror => rwa [herror] at hvalue
        · next value b hvalueRead =>
          rw [hvalueRead] at hvalue
          exact accounts_behind (b.skipBlanks_suffix.trans hvalue) _ _
            fun hnext => (h.members room _ _).of_suffix hnext
      · exact accounts_fault _ _
  · exact accounts_fault c _

theorem accountedWithin (steps : Nat) : AccountedWithin steps := by
  induction steps with
  | zero =>
    constructor
    · exact fun room c => accounts_fault c _
    · exact fun room done c => accounts_fault c _
    · exact fun room done c => accounts_fault c _
  | succ steps ih =>
    constructor
    · exact accounts_valueFrom_succ ih
    · exact accounts_itemsFrom_succ ih
    · exact accounts_membersFrom_succ ih

/-! ### Whole texts -/

/-- A text that is not read explains the error. -/
theorem explains_of_read (h : read t = .error e) : Explains depthLimit t e := by
  rw [read] at h
  split at h
  · cases h
    exact .malformed _ _
  · rw [readWhole] at h
    simp only at h
    have hvalue := (accountedWithin (2 * t.length + 2)).value depthLimit
      (Cursor.skipBlanks { rest := t, position := 0 })
    have hfront : (Cursor.skipBlanks { rest := t, position := 0 }).rest <:+ t :=
      Cursor.skipBlanks_suffix _
    split at h
    · next e' herror =>
      rw [herror] at hvalue
      cases h
      exact Explains.of_suffix hvalue hfront
    · split at h
      · cases h
      · cases h
        exact .malformed _ _

/-- No run of digits in the text is too long for an integer. -/
def HasShortDigits (t : Text) : Prop :=
  ∀ digits : Text, digits <:+: t → (∀ c ∈ digits, c.isDigit = true) → digits.length ≤ digitLimit

/-- Reading the text comes to a container that is nested too deep. -/
def NestsTooDeep (t : Text) : Prop := ∃ container, read t = .error (.tooDeep container)

theorem HasShortDigits.of_isInfix (h : HasShortDigits t) (ht : t' <:+: t) : HasShortDigits t' :=
  fun digits hdigits => h digits (hdigits.trans ht)

theorem hasShortDigits_of_length_le (h : t.length ≤ digitLimit) : HasShortDigits t :=
  fun _ hdigits _ => hdigits.length_le.trans h

theorem not_nestsTooDeep_of_openings_le (h : openings t ≤ depthLimit) : ¬ NestsTooDeep t := by
  rintro ⟨container, hread⟩
  cases explains_of_read hread with
  | tooDeep _ hopenings => omega

/-- Within the limits, a text that is not read is malformed. -/
theorem read_eq_malformed (hdigits : HasShortDigits t) (hnesting : ¬ NestsTooDeep t)
    (h : ∀ value, read t ≠ .ok value) :
    ∃ fault position, read t = .error (.malformed fault position) := by
  cases hread : read t with
  | ok value => exact absurd hread (h value)
  | error e =>
    cases explains_of_read hread with
    | malformed fault position => exact ⟨fault, position, rfl⟩
    | tooManyDigits hrun hall hmany => exact absurd (hdigits _ hrun hall) (by omega)
    | tooDeep container => exact absurd ⟨container, hread⟩ hnesting

end BigO.Json
