import BigO.Proofs.Text.Occurrence

/-! Words. No blank is a word character, so a word ends at the end of its line, and a pattern for
whole words reads on one line. -/

namespace BigO

namespace CodePoint

/-- The numbers of the blanks outside ASCII. -/
def wideBlanks : List Nat :=
  [0x85, 0xA0, 0x1680, 0x2028, 0x2029, 0x202F, 0x205F, 0x3000] ++ List.range' 0x2000 11

theorem val_mem_wideBlanks {c : CodePoint} (h : c.isBlank = true) (hc : ¬ c.val < 0x80) :
    c.val ∈ wideBlanks := by
  simp only [isBlank, isWhiteSpace, Bool.or_eq_true, Bool.and_eq_true, decide_eq_true_eq,
    beq_iff_eq] at h
  simp only [wideBlanks, List.mem_append, List.mem_cons, List.not_mem_nil, or_false,
    List.mem_range'_1]
  rcases h with ((((((((((h | h) | h) | h) | h) | h) | h) | h) | h) | h) | h) | h
  all_goals omega

theorem isWord_of_isBlank {c : CodePoint} (h : c.isBlank = true) : c.isWord = false := by
  by_cases hc : c.val < 0x80
  · simp only [isBlank, isWhiteSpace, Bool.or_eq_true, Bool.and_eq_true, decide_eq_true_eq,
      beq_iff_eq] at h
    rw [isWord, if_pos hc, Bool.eq_false_iff]
    simp only [isLetter, isDigit, ne_eq, Bool.or_eq_true, Bool.and_eq_true, decide_eq_true_eq,
      beq_iff_eq]
    omega
  · have hall : ∀ n ∈ wideBlanks, Text.wordRanges.contains n = false := by decide +kernel
    rw [isWord, if_neg hc, hall _ (val_mem_wideBlanks h hc)]

theorem isWord_of_isLetter {c : CodePoint} (h : c.isLetter = true) : c.isWord = true := by
  have hascii : c.val < 0x80 := by
    simp only [isLetter, Bool.or_eq_true, Bool.and_eq_true, decide_eq_true_eq] at h
    omega
  rw [isWord, if_pos hascii, h]
  rfl

end CodePoint

/-- A text that holds no line feed is in front of a line exactly when it is in front of the text. -/
theorem prefix_append_lineFeed_iff {w : Text} (hw : CodePoint.ofChar '\n' ∉ w) (t s : Text) :
    w <+: t ++ CodePoint.ofChar '\n' :: s ↔ w <+: t := by
  constructor
  · rintro ⟨rest, hrest⟩
    rcases List.append_eq_append_iff.mp hrest with ⟨a, rfl, -⟩ | ⟨a, rfl, hline⟩
    · exact List.prefix_append w a
    · cases a with
      | nil => exact ⟨[], by rw [List.append_nil, List.append_nil]⟩
      | cons c a =>
          obtain ⟨rfl, -⟩ := List.cons.inj hline
          exact absurd (List.mem_append_right t List.mem_cons_self) hw
  · exact fun h => h.trans (List.prefix_append _ _)

/-- A run ends at the latest where a code point of another class stands. -/
theorem takeWhile_append_cons {q : CodePoint → Bool} {c : CodePoint} (hq : q c = false)
    (t s : Text) : (t ++ c :: s).takeWhile q = t.takeWhile q := by
  induction t with
  | nil => exact List.takeWhile_cons_of_neg (by rw [hq]; exact Bool.false_ne_true)
  | cons d t ih => rw [List.cons_append, List.takeWhile_cons, List.takeWhile_cons, ih]

/-- The word stands in the text, with no word character before it or behind it. -/
def Text.HasWord (t w : Text) : Prop :=
  ∃ u v, t = u ++ w ++ v ∧ (∀ c ∈ u.getLast?, c.isWord = false) ∧ ∀ c ∈ v.head?, c.isWord = false

namespace Pattern

variable {α : Type} {words : List Text}

/-- A whole word of a list, wherever one begins. -/
abbrev wholeWord (words : List Text) : Pattern Text := after wordStart (Reader.wordAmong words)

theorem wholeWord_eq_some {before : Option CodePoint} {t w : Text} {n : Nat} :
    wholeWord words before t = some (w, n) ↔
      wordStart before ∧ w = t.takeWhile CodePoint.isWord ∧ w ≠ [] ∧ w ∈ words ∧ n = w.length := by
  rw [wholeWord, after_eq_some, Reader.wordAmong_eq_some]

theorem isSome_wholeWord_iff {before : Option CodePoint} {t : Text} :
    (wholeWord words before t).isSome ↔
      wordStart before ∧ t.takeWhile CodePoint.isWord ≠ [] ∧
        t.takeWhile CodePoint.isWord ∈ words := by
  rw [Option.isSome_iff_exists]
  constructor
  · rintro ⟨⟨w, n⟩, hread⟩
    obtain ⟨hstart, rfl, hw, hmem, -⟩ := wholeWord_eq_some.mp hread
    exact ⟨hstart, hw, hmem⟩
  · rintro ⟨hstart, hw, hmem⟩
    exact ⟨_, wholeWord_eq_some.mpr ⟨hstart, rfl, hw, hmem, rfl⟩⟩

theorem begins_wholeWord (words : List Text) :
    (wholeWord words).Begins (CodePoint.isWord · = true) :=
  Begins.after (Reader.begins_wordAmong words) _

theorem inline_wholeWord (words : List Text) : (wholeWord words).Inline where
  start := rfl
  ofLine before t s := by
    refine Option.ext fun hit => ?_
    rw [wholeWord_eq_some, wholeWord_eq_some, takeWhile_append_cons (by decide)]
  inside hread := by
    obtain ⟨-, rfl, -, -, rfl⟩ := wholeWord_eq_some.mp hread
    exact (List.takeWhile_sublist _).length_le

theorem inline_exactly {w : Text} (hw : CodePoint.ofChar '\n' ∉ w) :
    (anywhere (Reader.exactly w)).Inline where
  start := rfl
  ofLine before t s := by
    refine Option.ext fun hit => ?_
    rw [anywhere, Reader.exactly_eq_some, Reader.exactly_eq_some, prefix_append_lineFeed_iff hw]
  inside hread := by
    obtain ⟨hword, -, rfl⟩ := Reader.exactly_eq_some.mp hread
    exact hword.length_le

theorem Inline.orElse {p p' : Pattern α} (hp : p.Inline) (hp' : p'.Inline) :
    (p.orElse p').Inline where
  start := by
    rw [Pattern.orElse, Pattern.orElse, hp.start, hp'.start]
  ofLine before t s := by
    rw [Pattern.orElse, Reader.orElse, Reader.orElse, hp.ofLine, hp'.ofLine]
  inside hread := by
    rcases Reader.orElse_eq_some.mp hread with hread | ⟨-, hread⟩
    · exact hp.inside hread
    · exact hp'.inside hread

/-- A word of one list is a word of a longer one. -/
theorem ReadsIn.wholeWord_mono {words words' : List Text} (h : words ⊆ words')
    {before : Option CodePoint} {t : Text} (hread : ReadsIn (wholeWord words) before t) :
    ReadsIn (wholeWord words') before t := by
  refine hread.mono fun b s hs => ?_
  rw [isSome_wholeWord_iff] at hs ⊢
  exact ⟨hs.1, hs.2.1, h hs.2.2⟩

/-- A word of the list that stands in the text is read there. -/
theorem readsIn_of_hasWord {w t : Text} (hw : w ≠ []) (hall : ∀ c ∈ w, c.isWord = true)
    (hmem : w ∈ words) (h : t.HasWord w) : ReadsIn (wholeWord words) none t := by
  obtain ⟨u, v, rfl, hbefore, hbehind⟩ := h
  refine ⟨u, w ++ v, List.append_assoc u w v, isSome_wholeWord_iff.mpr ⟨?_, ?_⟩⟩
  · rw [lastOf, Option.or_none]
    cases hlast : u.getLast? with
    | none => rfl
    | some c =>
        rw [wordStart, Option.any_some, hbefore c hlast]
        rfl
  · rw [Reader.takeWhile_append_eq hall hbehind]
    exact ⟨hw, hmem⟩

/-- What is read as a word of a list stands in the text as a word. -/
theorem hasWord_of_occursIn {w t : Text} (h : (wholeWord [w]).occursIn t = true) : t.HasWord w := by
  obtain ⟨u, v, rfl, hread⟩ := ((begins_wholeWord [w]).occursIn_iff t).mp h
  obtain ⟨hstart, -, hmem⟩ := isSome_wholeWord_iff.mp hread
  have hword : v.takeWhile CodePoint.isWord = w := List.mem_singleton.mp hmem
  refine ⟨u, v.dropWhile CodePoint.isWord, ?_, fun c hc => ?_, fun c hc => ?_⟩
  · rw [← hword, List.append_assoc, List.takeWhile_append_dropWhile]
  · rw [lastOf, Option.mem_def.mp hc] at hstart
    simpa [wordStart] using hstart
  · have hne : v.dropWhile CodePoint.isWord ≠ [] := by
      rintro hnil
      rw [hnil] at hc
      cases hc
    have hhead := List.head_dropWhile_not CodePoint.isWord hne
    rw [List.head?_eq_some_head hne, Option.mem_some_iff] at hc
    rwa [← hc]

end Pattern

end BigO
