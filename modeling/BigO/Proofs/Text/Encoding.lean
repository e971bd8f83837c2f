import BigO.Proofs.Text.Lower
import BigO.Text.Decoding

/-! UTF-8 there and back. The bytes of a code point are read as that code point, surrogates included
where the decoder lets them pass, so that the bytes of a text are the text again. -/

namespace BigO

theorem CodePoint.ofNat_eq {c : CodePoint} {n : Nat} (h : n = c.val) : ofNat n = c := by
  rw [h, ofNat, dif_pos c.lt]

namespace Text

theorem toNat_ofNat_of_lt {n : Nat} (h : n < 256) : (UInt8.ofNat n).toNat = n :=
  UInt8.toNat_ofNat_of_lt' h

/-! ### One code point -/

/-- A byte that fits puts its six bits behind the payload. -/
theorem continuation_cons {payload taken low high n : Nat} {ranges : List (Nat × Nat)}
    (hn : n < 64) (hlow : low ≤ 0x80 + n) (hhigh : 0x80 + n ≤ high) (rest : List UInt8) :
    continuation payload taken ((low, high) :: ranges) (UInt8.ofNat (0x80 + n) :: rest) =
      continuation (payload * 64 + n) (taken + 1) ranges rest := by
  have hbyte : (UInt8.ofNat (0x80 + n)).toNat = 0x80 + n := toNat_ofNat_of_lt (by omega)
  have hbits : (0x80 + n) % 64 = n := by omega
  rw [continuation, hbyte, if_pos ⟨hlow, hhigh⟩, hbits]

/-- The lead byte of three: what may follow it depends on it at the two ends of the range. -/
theorem sequenceShape_three {n : Nat} (hlow : 0x800 ≤ n) (hhigh : n < 0x10000) :
    ∃ low ≤ 0x80 + n / 64 % 64,
      sequenceShape true (0xE0 + n / 4096) = some (n / 4096, [(low, 0xBF), (0x80, 0xBF)]) := by
  have hlead : n / 4096 < 16 := by omega
  rw [sequenceShape, if_neg (by omega)]
  by_cases hfirst : n / 4096 = 0
  · refine ⟨0xA0, by omega, ?_⟩
    rw [if_pos (by omega), hfirst]
  · rw [if_neg (by omega)]
    refine ⟨0x80, by omega, ?_⟩
    by_cases hsurrogate : n / 4096 = 13
    · rw [if_pos (by omega), hsurrogate]
      rfl
    · rw [if_neg (by omega), if_pos (by omega), Nat.add_sub_cancel_left]

/-- The lead byte of four. -/
theorem sequenceShape_four {n : Nat} (hlow : 0x10000 ≤ n) (hhigh : n < 0x110000) :
    ∃ low high, low ≤ 0x80 + n / 4096 % 64 ∧ 0x80 + n / 4096 % 64 ≤ high ∧
      sequenceShape true (0xF0 + n / 262144) =
        some (n / 262144, [(low, high), (0x80, 0xBF), (0x80, 0xBF)]) := by
  have hlead : n / 262144 ≤ 4 := by omega
  rw [sequenceShape, if_neg (by omega), if_neg (by omega), if_neg (by omega), if_neg (by omega)]
  by_cases hfirst : n / 262144 = 0
  · refine ⟨0x90, 0xBF, by omega, by omega, ?_⟩
    rw [if_pos (by omega), hfirst]
  · rw [if_neg (by omega)]
    by_cases hlast : n / 262144 = 4
    · refine ⟨0x80, 0x8F, by omega, by omega, ?_⟩
      rw [if_neg (by omega), if_pos (by omega), hlast]
    · refine ⟨0x80, 0xBF, by omega, by omega, ?_⟩
      rw [if_pos (by omega), Nat.add_sub_cancel_left]

/-- The bytes of a code point are read as that code point. -/
theorem utf8Unit_utf8Bytes (c : CodePoint) (rest : List UInt8) :
    utf8Unit true (utf8Bytes c ++ rest) = (some c, (utf8Bytes c).length) := by
  have hlt := c.lt
  rw [utf8Bytes]
  -- One case for each length of an encoding.
  split_ifs with hone htwo hthree
  · rw [List.singleton_append, utf8Unit, toNat_ofNat_of_lt (by omega), if_pos hone,
      CodePoint.ofNat_eq rfl]
    rfl
  · have hlead : (UInt8.ofNat (0xC0 + c.val / 64)).toNat = 0xC0 + c.val / 64 :=
      toNat_ofNat_of_lt (by omega)
    have hshape : sequenceShape true (0xC0 + c.val / 64) = some (c.val / 64, [(0x80, 0xBF)]) := by
      rw [sequenceShape, if_pos (by omega), Nat.add_sub_cancel_left]
    simp only [List.cons_append, List.nil_append, utf8Unit, hlead, hshape]
    rw [if_neg (by omega), continuation_cons (by omega) (by omega) (by omega), continuation,
      CodePoint.ofNat_eq (c := c) (by omega)]
    rfl
  · have hlead : (UInt8.ofNat (0xE0 + c.val / 4096)).toNat = 0xE0 + c.val / 4096 :=
      toNat_ofNat_of_lt (by omega)
    obtain ⟨low, hlow, hshape⟩ := sequenceShape_three (Nat.not_lt.mp htwo) hthree
    simp only [List.cons_append, List.nil_append, utf8Unit, hlead, hshape]
    rw [if_neg (by omega), continuation_cons (by omega) hlow (by omega),
      continuation_cons (by omega) (by omega) (by omega), continuation,
      CodePoint.ofNat_eq (c := c) (by omega)]
    rfl
  · have hlead : (UInt8.ofNat (0xF0 + c.val / 262144)).toNat = 0xF0 + c.val / 262144 :=
      toNat_ofNat_of_lt (by omega)
    obtain ⟨low, high, hlow, hhigh, hshape⟩ := sequenceShape_four (Nat.not_lt.mp hthree) hlt
    simp only [List.cons_append, List.nil_append, utf8Unit, hlead, hshape]
    rw [if_neg (by omega), continuation_cons (by omega) hlow hhigh,
      continuation_cons (by omega) (by omega) (by omega),
      continuation_cons (by omega) (by omega) (by omega), continuation,
      CodePoint.ofNat_eq (c := c) (by omega)]
    rfl

/-! ### Texts -/

theorem unitsFrom_skip (decoder : UnitDecoder) (done : List (Option CodePoint))
    (bytes rest : List UInt8) :
    unitsFrom decoder done bytes.length (bytes ++ rest) = unitsFrom decoder done 0 rest := by
  induction bytes with
  | nil => rfl
  | cons b bytes ih =>
    rw [List.cons_append, List.length_cons, unitsFrom]
    exact ih

theorem faultFrom_skip (decoder : UnitDecoder) (place : Nat) (bytes rest : List UInt8) :
    faultFrom decoder place bytes.length (bytes ++ rest) =
      faultFrom decoder (place + bytes.length) 0 rest := by
  induction bytes generalizing place with
  | nil => rfl
  | cons b bytes ih =>
    rw [List.cons_append, List.length_cons, faultFrom, ih, Nat.add_assoc, Nat.add_comm 1]

theorem exists_utf8Bytes_eq (c : CodePoint) : ∃ b bytes, utf8Bytes c = b :: bytes := by
  rw [utf8Bytes]
  split_ifs <;> exact ⟨_, _, rfl⟩

theorem unitsFrom_toUtf8 (done : List (Option CodePoint)) (t : Text) :
    unitsFrom (utf8Unit true) done 0 (toUtf8 t) = done.reverse ++ t.map some := by
  induction t generalizing done with
  | nil => rw [toUtf8, List.flatMap_nil, unitsFrom, List.map_nil, List.append_nil]
  | cons c t ih =>
    obtain ⟨b, bytes, hbytes⟩ := exists_utf8Bytes_eq c
    have hunit := utf8Unit_utf8Bytes c (toUtf8 t)
    rw [hbytes, List.cons_append] at hunit
    rw [toUtf8, List.flatMap_cons, ← toUtf8, hbytes, List.cons_append, unitsFrom, hunit]
    simp only [List.length_cons, Nat.add_sub_cancel]
    rw [unitsFrom_skip, ih, List.reverse_cons, List.append_assoc, List.map_cons]
    rfl

theorem faultFrom_toUtf8 (place : Nat) (t : Text) :
    faultFrom (utf8Unit true) place 0 (toUtf8 t) = none := by
  induction t generalizing place with
  | nil => rw [toUtf8, List.flatMap_nil, faultFrom]
  | cons c t ih =>
    obtain ⟨b, bytes, hbytes⟩ := exists_utf8Bytes_eq c
    have hunit := utf8Unit_utf8Bytes c (toUtf8 t)
    rw [hbytes, List.cons_append] at hunit
    rw [toUtf8, List.flatMap_cons, ← toUtf8, hbytes, List.cons_append, faultFrom, hunit]
    simp only [Option.isNone_some, Bool.false_eq_true, if_false, List.length_cons,
      Nat.add_sub_cancel]
    rw [faultFrom_skip, ih]

/-- The units of the bytes of a text are its code points. -/
theorem lossy_units_toUtf8 (t : Text) : lossy (units (utf8Unit true) (toUtf8 t)) = t := by
  rw [units, unitsFrom_toUtf8, lossy, List.reverse_nil, List.nil_append, List.map_map]
  exact List.map_id'' (fun _ => rfl) t

end Text

end BigO
