import Mathlib.Tactic.SplitIfs
import BigO.Number.Lenient
import BigO.Proofs.Text.Part

/-! The integers of header fields, as a grammar: blanks, a sign, digits with single underscores
between them, blanks. What is read is exactly what the grammar spells, within the limit on the
digits. -/

namespace BigO.Lenient

/-- Digits, written with at most one underscore between two of them. -/
inductive Grouped : (spelling digits : Text) → Prop
  | last {d : CodePoint} (hd : d.isDigit = true) : Grouped [d] [d]
  | next {d : CodePoint} {rest digits : Text} (hd : d.isDigit = true)
      (hrest : Grouped rest digits) : Grouped (d :: rest) (d :: digits)
  | apart {d : CodePoint} {rest digits : Text} (hd : d.isDigit = true)
      (hrest : Grouped rest digits) :
      Grouped (d :: CodePoint.ofChar '_' :: rest) (d :: digits)

/-- The number to which digits continue a number. -/
def continued (value : Nat) (digits : Text) : Nat :=
  digits.foldl (fun n (d : CodePoint) => n * 10 + (d.val - 0x30)) value

/-- The signs that may stand before digits. -/
def signs : List Text := [[], text "+", text "-"]

/-- The blanks that may stand around an integer in a text: in a text of ASCII its six blanks, else
also the blanks outside of ASCII. -/
def isHeaderBlank (ascii : Bool) (c : CodePoint) : Bool :=
  if ascii then (0x09 ≤ c.val && c.val ≤ 0x0D) || c.val == 0x20
  else (0x09 ≤ c.val && c.val ≤ 0x0D) || c.val == 0x20 || (0x80 ≤ c.val && c.isBlank)

def isAscii (t : Text) : Bool := t.all fun (c : CodePoint) => c.val < 0x80

/-- A text spells an integer: blanks, a sign, digits and blanks. -/
inductive SpellsInteger (t : Text) : Int → Prop
  | intro {front sign spelling back digits : Text} (ht : t = front ++ (sign ++ spelling) ++ back)
      (hfront : ∀ c ∈ front, isHeaderBlank (isAscii t) c = true)
      (hback : ∀ c ∈ back, isHeaderBlank (isAscii t) c = true) (hsign : sign ∈ signs)
      (hgrouped : Grouped spelling digits) (hlimit : digits.length ≤ digitLimit) :
      SpellsInteger t
        (if sign = text "-" then -(continued 0 digits : Int) else continued 0 digits)

/-! ### Digits -/

variable {spelling digits t : Text} {n : Int}

namespace Grouped

theorem filter_isDigit (h : Grouped spelling digits) :
    spelling.filter CodePoint.isDigit = digits := by
  have hunderscore : (CodePoint.ofChar '_').isDigit = false := by decide
  induction h with
  | last hd => rw [List.filter_cons_of_pos hd, List.filter_nil]
  | next hd _ ih => rw [List.filter_cons_of_pos hd, ih]
  | apart hd _ ih =>
    rw [List.filter_cons_of_pos hd, List.filter_cons_of_neg (by rw [hunderscore]; decide), ih]

theorem ends (h : Grouped spelling digits) :
    (∃ d rest, spelling = d :: rest ∧ d.isDigit = true) ∧
      ∃ front d, spelling = front ++ [d] ∧ d.isDigit = true := by
  induction h with
  | @last d hd => exact ⟨⟨d, [], rfl, hd⟩, [], d, rfl, hd⟩
  | @next d rest digits hd _ ih =>
    obtain ⟨-, front, e, hrest, he⟩ := ih
    exact ⟨⟨d, rest, rfl, hd⟩, d :: front, e, by rw [hrest]; rfl, he⟩
  | @apart d rest digits hd _ ih =>
    obtain ⟨-, front, e, hrest, he⟩ := ih
    exact ⟨⟨d, _, rfl, hd⟩, d :: CodePoint.ofChar '_' :: front, e, by rw [hrest]; rfl, he⟩

end Grouped

/-- What may still come behind a digit: nothing, more digits, or an underscore and more digits. -/
def GoesOn (rest digits : Text) : Prop :=
  rest = [] ∧ digits = [] ∨ Grouped rest digits ∨
    ∃ behind, rest = CodePoint.ofChar '_' :: behind ∧ Grouped behind digits

theorem grouped_cons_iff {d : CodePoint} {rest : Text} :
    Grouped (d :: rest) digits ↔
      d.isDigit = true ∧ ∃ others, digits = d :: others ∧ GoesOn rest others := by
  constructor
  · intro h
    cases h with
    | last hd => exact ⟨hd, [], rfl, Or.inl ⟨rfl, rfl⟩⟩
    | next hd hrest => exact ⟨hd, _, rfl, Or.inr (Or.inl hrest)⟩
    | apart hd hrest => exact ⟨hd, _, rfl, Or.inr (Or.inr ⟨_, rfl, hrest⟩)⟩
  · rintro ⟨hd, others, rfl, ⟨rfl, rfl⟩ | hrest | ⟨behind, rfl, hrest⟩⟩
    · exact .last hd
    · exact .next hd hrest
    · exact .apart hd hrest

theorem goesOn_underscore_iff {rest : Text} :
    GoesOn (CodePoint.ofChar '_' :: rest) digits ↔ Grouped rest digits := by
  have hunderscore : (CodePoint.ofChar '_').isDigit = false := by decide
  constructor
  · rintro (⟨hnil, -⟩ | hdigit | ⟨behind, heq, hrest⟩)
    · cases hnil
    · rw [grouped_cons_iff, hunderscore] at hdigit
      cases hdigit.1
    · cases heq
      exact hrest
  · exact fun hrest => Or.inr (Or.inr ⟨rest, rfl, hrest⟩)

theorem goesOn_cons_iff {c : CodePoint} {rest : Text} (hc : c ≠ CodePoint.ofChar '_') :
    GoesOn (c :: rest) digits ↔ Grouped (c :: rest) digits := by
  constructor
  · rintro (⟨hnil, -⟩ | hdigit | ⟨behind, heq, -⟩)
    · cases hnil
    · exact hdigit
    · exact absurd (List.cons.inj heq).1 hc
  · exact fun hdigit => Or.inr (Or.inl hdigit)

/-- A first digit goes into the number, and the others follow. -/
theorem exists_grouped_cons_iff {d : CodePoint} {rest : Text} {value n : Nat}
    (hd : d.isDigit = true) :
    (∃ digits, Grouped (d :: rest) digits ∧ continued value digits = n) ↔
      ∃ others, GoesOn rest others ∧ continued (value * 10 + (d.val - 0x30)) others = n := by
  constructor
  · rintro ⟨digits, hgrouped, hvalue⟩
    obtain ⟨-, others, rfl, hrest⟩ := grouped_cons_iff.mp hgrouped
    exact ⟨others, hrest, hvalue⟩
  · rintro ⟨others, hrest, hvalue⟩
    exact ⟨d :: others, grouped_cons_iff.mpr ⟨hd, others, rfl, hrest⟩, hvalue⟩

/-- Digits are read as they are grouped, in front of the first one and behind it. -/
theorem groupedDigits_eq_some (t : Text) (value n : Nat) :
    (groupedDigits value true t = some n ↔
        ∃ digits, Grouped t digits ∧ continued value digits = n) ∧
      (groupedDigits value false t = some n ↔
        ∃ digits, GoesOn t digits ∧ continued value digits = n) := by
  -- An underscore leads from the second state back to the first, so both go into one induction.
  induction t generalizing value with
  | nil =>
    constructor
    · refine iff_of_false nofun ?_
      rintro ⟨digits, hgrouped, -⟩
      cases hgrouped
    · rw [groupedDigits, if_neg (by decide), Option.some.injEq]
      constructor
      · exact fun hvalue => ⟨[], Or.inl ⟨rfl, rfl⟩, hvalue⟩
      · rintro ⟨digits, ⟨-, rfl⟩ | hgrouped | ⟨behind, hcons, -⟩, hvalue⟩
        · exact hvalue
        · cases hgrouped
        · cases hcons
  | cons c t ih =>
    have hunderscore : (CodePoint.ofChar '_').isDigit = false := by decide
    by_cases hdigit : c.isDigit = true
    · have hplain : c ≠ CodePoint.ofChar '_' := by
        rintro rfl
        rw [hunderscore] at hdigit
        cases hdigit
      simp only [goesOn_cons_iff hplain]
      rw [groupedDigits, groupedDigits, if_pos hdigit, if_pos hdigit,
        exists_grouped_cons_iff hdigit]
      exact ⟨(ih _).2, (ih _).2⟩
    · have hnone : ∀ digits, ¬ Grouped (c :: t) digits := fun digits hgrouped =>
        hdigit (grouped_cons_iff.mp hgrouped).1
      rw [groupedDigits, groupedDigits, if_neg hdigit, if_neg hdigit]
      refine ⟨?_, ?_⟩
      · rw [if_neg (fun h => Bool.noConfusion h.2)]
        exact iff_of_false nofun fun ⟨digits, hgrouped, _⟩ => hnone digits hgrouped
      · by_cases hmark : c = CodePoint.ofChar '_'
        · rw [if_pos ⟨hmark, rfl⟩, (ih value).1, hmark]
          simp only [goesOn_underscore_iff]
        · rw [if_neg (fun h => hmark h.1)]
          simp only [goesOn_cons_iff hmark]
          exact iff_of_false nofun fun ⟨digits, hgrouped, _⟩ => hnone digits hgrouped

/-! ### Signs -/

theorem exists_sign (t : Text) :
    ∃ sign ∈ signs, ∃ rest, t = sign ++ rest ∧
      splitSign t = (decide (sign = text "-"), rest) := by
  cases t with
  | nil => exact ⟨[], by decide, [], rfl, rfl⟩
  | cons c rest =>
    rw [splitSign]
    split_ifs with hminus hplus
    · exact ⟨text "-", by decide, rest, by rw [hminus]; rfl, rfl⟩
    · have hother : text "+" ≠ text "-" := by decide
      exact ⟨text "+", by decide, rest, by rw [hplus]; rfl, by rw [decide_eq_false hother]⟩
    · exact ⟨[], by decide, c :: rest, rfl, rfl⟩

theorem splitSign_append {sign rest : Text} {d : CodePoint} (hsign : sign ∈ signs)
    (hd : d.isDigit = true) :
    splitSign (sign ++ d :: rest) = (decide (sign = text "-"), d :: rest) := by
  have hminus : d ≠ CodePoint.ofChar '-' := by
    rintro rfl
    exact absurd hd (by decide)
  have hplus : d ≠ CodePoint.ofChar '+' := by
    rintro rfl
    exact absurd hd (by decide)
  have hminus_plus : CodePoint.ofChar '+' ≠ CodePoint.ofChar '-' := by decide
  rw [signs, List.mem_cons, List.mem_cons, List.mem_singleton] at hsign
  rcases hsign with rfl | rfl | rfl
  · rw [List.nil_append, splitSign, if_neg hminus, if_neg hplus]
    rfl
  · rw [show text "+" ++ d :: rest = CodePoint.ofChar '+' :: d :: rest from rfl, splitSign,
      if_neg hminus_plus, if_pos rfl]
    rfl
  · rw [show text "-" ++ d :: rest = CodePoint.ofChar '-' :: d :: rest from rfl, splitSign,
      if_pos rfl]
    rfl

/-- Reads an integer without blanks around it. -/
def readSigned (t : Text) : Option Int :=
  let (negative, digits) := splitSign t
  match groupedDigits 0 true digits with
  | none => none
  | some n =>
    if digitLimit < (digits.filter CodePoint.isDigit).length then none
    else some (if negative then -(n : Int) else n)

theorem readHeaderInteger_eq (t : Text) :
    readHeaderInteger t =
      readSigned ((t.dropWhile (isHeaderBlank (isAscii t))).reverse.dropWhile
        (isHeaderBlank (isAscii t))).reverse := rfl

/-- Behind its sign an integer is the number that its digits stand for. -/
theorem readSigned_eq_some_iff {negative : Bool} {rest : Text}
    (hsplit : splitSign t = (negative, rest)) :
    readSigned t = some n ↔ ∃ digits, Grouped rest digits ∧ digits.length ≤ digitLimit ∧
      n = if negative then -(continued 0 digits : Int) else continued 0 digits := by
  rw [readSigned, hsplit]
  constructor
  · intro hread
    cases hvalue : groupedDigits 0 true rest with
    | none =>
      simp only [hvalue] at hread
      cases hread
    | some value =>
      obtain ⟨digits, hgrouped, rfl⟩ := (groupedDigits_eq_some rest 0 value).1.mp hvalue
      simp only [hvalue, hgrouped.filter_isDigit] at hread
      by_cases hlong : digitLimit < digits.length
      · rw [if_pos hlong] at hread
        cases hread
      · rw [if_neg hlong] at hread
        exact ⟨digits, hgrouped, Nat.not_lt.mp hlong, (Option.some.inj hread).symm⟩
  · rintro ⟨digits, hgrouped, hlimit, rfl⟩
    have hvalue := (groupedDigits_eq_some rest 0 _).1.mpr ⟨digits, hgrouped, rfl⟩
    simp only [hvalue, hgrouped.filter_isDigit, if_neg (Nat.not_lt.mpr hlimit)]

theorem readSigned_eq_some :
    readSigned t = some n ↔
      ∃ sign ∈ signs, ∃ spelling digits, t = sign ++ spelling ∧ Grouped spelling digits ∧
        digits.length ≤ digitLimit ∧
        n = if sign = text "-" then -(continued 0 digits : Int) else continued 0 digits := by
  constructor
  · intro hread
    obtain ⟨sign, hsign, rest, ht, hsplit⟩ := exists_sign t
    obtain ⟨digits, hgrouped, hlimit, hvalue⟩ := (readSigned_eq_some_iff hsplit).mp hread
    simp only [decide_eq_true_eq] at hvalue
    exact ⟨sign, hsign, rest, digits, ht, hgrouped, hlimit, hvalue⟩
  · rintro ⟨sign, hsign, spelling, digits, rfl, hgrouped, hlimit, hvalue⟩
    obtain ⟨⟨d, rest, rfl, hd⟩, -⟩ := hgrouped.ends
    rw [readSigned_eq_some_iff (splitSign_append hsign hd)]
    refine ⟨digits, hgrouped, hlimit, ?_⟩
    simp only [decide_eq_true_eq]
    exact hvalue

theorem isHeaderBlank_of_mem_signs {sign : Text} (hsign : sign ∈ signs) (ascii : Bool) :
    ∀ c ∈ sign, isHeaderBlank ascii c = false := by
  have hnone : ∀ sign ∈ signs, ∀ ascii : Bool, ∀ c ∈ sign, isHeaderBlank ascii c = false := by
    decide
  exact hnone sign hsign ascii

theorem isHeaderBlank_of_isDigit {d : CodePoint} (hd : d.isDigit = true) (ascii : Bool) :
    isHeaderBlank ascii d = false := by
  rw [CodePoint.isDigit, Bool.and_eq_true, decide_eq_true_eq, decide_eq_true_eq] at hd
  rw [Bool.eq_false_iff]
  intro hblank
  cases ascii with
  | true =>
    simp only [isHeaderBlank, if_true, Bool.or_eq_true, Bool.and_eq_true, decide_eq_true_eq,
      beq_iff_eq] at hblank
    omega
  | false =>
    simp only [isHeaderBlank, Bool.false_eq_true, if_false, Bool.or_eq_true, Bool.and_eq_true,
      decide_eq_true_eq, beq_iff_eq] at hblank
    omega

/-- A sign with digits has no blanks at its ends. -/
theorem not_isHeaderBlank_ends {sign : Text} (hsign : sign ∈ signs)
    (hgrouped : Grouped spelling digits) (ascii : Bool) :
    sign ++ spelling ≠ [] ∧ (∀ c ∈ (sign ++ spelling).head?, isHeaderBlank ascii c = false) ∧
      ∀ c ∈ (sign ++ spelling).getLast?, isHeaderBlank ascii c = false := by
  obtain ⟨⟨d, rest, hfirst, hd⟩, front, e, hlast, he⟩ := hgrouped.ends
  refine ⟨?_, ?_, ?_⟩
  · rw [hfirst]
    exact List.append_ne_nil_of_right_ne_nil sign (List.cons_ne_nil d rest)
  · intro c hc
    rw [hfirst] at hc
    cases sign with
    | nil =>
      obtain rfl : d = c := Option.some.inj hc
      exact isHeaderBlank_of_isDigit hd ascii
    | cons mark sign =>
      obtain rfl : mark = c := Option.some.inj hc
      exact isHeaderBlank_of_mem_signs hsign ascii mark List.mem_cons_self
  · intro c hc
    rw [hlast, ← List.append_assoc, List.getLast?_concat] at hc
    obtain rfl : e = c := Option.some.inj hc
    exact isHeaderBlank_of_isDigit he ascii

/-- What is read of a header field is what it spells. -/
theorem readHeaderInteger_eq_some : readHeaderInteger t = some n ↔ SpellsInteger t n := by
  rw [readHeaderInteger_eq, readSigned_eq_some]
  constructor
  · rintro ⟨sign, hsign, spelling, digits, hcore, hgrouped, hlimit, rfl⟩
    obtain ⟨front, back, ht, hfront, hback⟩ :=
      Text.exists_eq_trimmed (isHeaderBlank (isAscii t)) (isHeaderBlank (isAscii t)) t
    rw [hcore] at ht
    exact .intro ht hfront hback hsign hgrouped hlimit
  · rintro ⟨ht, hfront, hback, hsign, hgrouped, hlimit⟩
    refine ⟨_, hsign, _, _, ?_, hgrouped, hlimit, rfl⟩
    obtain ⟨hne, hfirst, hlast⟩ := not_isHeaderBlank_ends hsign hgrouped (isAscii t)
    have htrimmed := Text.trimmed_eq hfront hback hne hfirst hlast
    rw [← ht] at htrimmed
    exact htrimmed

end BigO.Lenient
