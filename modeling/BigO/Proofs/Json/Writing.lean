import BigO.Json.Writer
import Mathlib.Tactic.SplitIfs

/-! What is written of a JSON value has an encoding exactly when its texts have one: escapes, numbers
and punctuation are ASCII, and all other code points are written as they are. -/

namespace BigO

namespace Text

@[simp] theorem wellFormed_nil : wellFormed [] = true := rfl

@[simp] theorem wellFormed_cons (c : CodePoint) (t : Text) :
    wellFormed (c :: t) = (!c.isSurrogate && t.wellFormed) := List.all_cons

@[simp] theorem wellFormed_append (s t : Text) :
    wellFormed (s ++ t) = (s.wellFormed && t.wellFormed) := List.all_append

theorem wellFormed_iff {t : Text} : t.wellFormed = true ↔ ∀ c ∈ t, c.isSurrogate = false := by
  rw [wellFormed, List.all_eq_true]
  exact ⟨fun h c hc => Bool.not_eq_true' _ ▸ h c hc, fun h c hc => by rw [h c hc]; rfl⟩

theorem wellFormed_of_sublist {s t : Text} (h : s.Sublist t) (ht : t.wellFormed = true) :
    s.wellFormed = true := by
  rw [wellFormed_iff] at ht ⊢
  exact fun c hc => ht c (h.subset hc)

/-- No character is a surrogate. -/
@[simp] theorem wellFormed_text (s : String) : (text s).wellFormed = true := by
  rw [wellFormed_iff]
  intro d hd
  obtain ⟨c, -, rfl⟩ := List.mem_map.mp hd
  rw [CodePoint.isSurrogate, CodePoint.ofChar, Bool.and_eq_false_iff]
  rcases c.valid with h | h
  · exact Or.inl (decide_eq_false (Nat.not_le.mpr h))
  · exact Or.inr (decide_eq_false (by have := h.1; simp only [Char.toNat]; omega))

theorem wellFormed_digitsFrom (steps : Nat) {done : Text} (hdone : done.wellFormed = true)
    (n : Nat) : (digitsFrom done steps n).wellFormed = true := by
  induction steps generalizing done n with
  | zero => exact hdone
  | succ steps ih =>
      have hdigit : ∀ d < 10, (CodePoint.ofNat (0x30 + d)).isSurrogate = false := by decide
      have hcons : wellFormed (CodePoint.ofNat (0x30 + n % 10) :: done) = true := by
        rw [wellFormed_cons, hdigit _ (Nat.mod_lt n (by decide)), hdone]
        rfl
      rw [digitsFrom]
      split
      · exact hcons
      · exact ih hcons _

@[simp] theorem wellFormed_ofNat (n : Nat) : (ofNat n).wellFormed = true :=
  wellFormed_digitsFrom _ rfl n

@[simp] theorem wellFormed_ofInt (n : Int) : (ofInt n).wellFormed = true := by
  cases n with
  | ofNat n => exact wellFormed_ofNat n
  | negSucc n =>
      rw [ofInt, wellFormed_cons, wellFormed_ofNat]
      decide

end Text

namespace Binary64

@[simp] theorem wellFormed_zeros (n : Nat) : (zeros n).wellFormed = true := by
  rw [zeros, Text.wellFormed_iff]
  intro c hc
  rw [List.eq_of_mem_replicate hc]
  decide

theorem wellFormed_exponentText (n : Int) : (exponentText n).wellFormed = true := by
  rw [exponentText]
  split
  all_goals
    simp only [Text.wellFormed_append, Text.wellFormed_text, wellFormed_zeros,
      Text.wellFormed_ofNat, Bool.and_self]

theorem wellFormed_place {digits : Text} (h : digits.wellFormed = true) (point : Int) :
    (place digits point).wellFormed = true := by
  have htake : ∀ n, Text.wellFormed (digits.take n) = true := fun n =>
    Text.wellFormed_of_sublist (List.take_sublist n digits) h
  have hdrop : ∀ n, Text.wellFormed (digits.drop n) = true := fun n =>
    Text.wellFormed_of_sublist (List.drop_sublist n digits) h
  have hfraction : Text.wellFormed (if (digits.drop 1).isEmpty then []
      else text "." ++ digits.drop 1) = true := by
    split
    · rfl
    · rw [Text.wellFormed_append, Text.wellFormed_text, hdrop, Bool.and_self]
  rw [place]
  split_ifs
  all_goals
    simp only [Text.wellFormed_append, Text.wellFormed_text, wellFormed_zeros,
      wellFormed_exponentText, h, htake, hdrop, hfraction, Bool.and_self]

theorem wellFormed_display (x : Binary64) : x.display.wellFormed = true := by
  cases x with
  | nan => exact Text.wellFormed_text "nan"
  | infinite negative =>
      cases negative with
      | true => exact Text.wellFormed_text "-inf"
      | false => exact Text.wellFormed_text "inf"
  | finite negative mantissa exponent =>
      have hdigits : ∀ digits power, (digitsAndPoint digits power).1.wellFormed = true := by
        intro digits power
        refine Text.wellFormed_of_sublist ?_ (Text.wellFormed_ofNat digits)
        rw [digitsAndPoint, ← List.reverse_sublist, List.reverse_reverse]
        exact List.dropWhile_sublist _
      have hplace := fun digits power =>
        wellFormed_place (hdigits digits power) (digitsAndPoint digits power).2
      simp only [display]
      split_ifs
      all_goals simp only [Text.wellFormed_append, Text.wellFormed_text, hplace, Bool.and_self]

end Binary64

namespace Json

theorem wellFormed_writeNumber (n : Number) : (writeNumber n).wellFormed = true := by
  cases n with
  | int n => exact Text.wellFormed_ofInt n
  | float x =>
      cases x with
      | nan => exact Text.wellFormed_text "NaN"
      | infinite negative => exact Text.wellFormed_text _
      | finite negative mantissa exponent =>
          exact Binary64.wellFormed_display (.finite negative mantissa exponent)

/-- Escaping neither adds a surrogate nor takes one away. -/
theorem wellFormed_escape (c : CodePoint) : (escape c).wellFormed = !c.isSurrogate := by
  have hlow : ∀ n < 0x20, (text "\\u" ++ Text.hexDigits 4 n).wellFormed = true := by decide +kernel
  rw [escape]
  split_ifs with hquote hbackslash hline hreturn htab hback hfeed hcontrol
  · rw [hquote, Text.wellFormed_text]; rfl
  · rw [hbackslash, Text.wellFormed_text]; rfl
  · rw [hline, Text.wellFormed_text]; rfl
  · rw [hreturn, Text.wellFormed_text]; rfl
  · rw [htab, Text.wellFormed_text]; rfl
  · rw [CodePoint.isSurrogate, hback, Text.wellFormed_text]; rfl
  · rw [CodePoint.isSurrogate, hfeed, Text.wellFormed_text]; rfl
  · have hfar : c.isSurrogate = false := by
      rw [CodePoint.isSurrogate, Bool.and_eq_false_iff]
      exact Or.inl (decide_eq_false (by omega))
    rw [hlow _ hcontrol, hfar]
    rfl
  · rw [Text.wellFormed_cons, Text.wellFormed_nil, Bool.and_true]

@[simp] theorem wellFormed_quote (t : Text) : (quote t).wellFormed = t.wellFormed := by
  have hescaped : Text.wellFormed (t.flatMap escape) = t.wellFormed := by
    induction t with
    | nil => rfl
    | cons c t ih =>
        rw [List.flatMap_cons, Text.wellFormed_append, wellFormed_escape, ih, Text.wellFormed_cons]
  rw [quote, Text.wellFormed_append, Text.wellFormed_append, Text.wellFormed_text,
    hescaped, Bool.true_and, Bool.and_true]

end Json

end BigO
