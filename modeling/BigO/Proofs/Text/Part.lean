import Mathlib.Data.List.DropRight
import Mathlib.Data.List.TakeWhile
import BigO.Text.Basic

/-! Parts of a text: what is left without the blanks at its ends, and what stands between
separators. -/

namespace BigO.Text

theorem strip_eq_nil_iff {t : Text} : t.strip = [] ↔ ∀ c ∈ t, c.isBlank = true := by
  rw [strip, stripRight, stripLeft, List.reverse_eq_nil_iff, List.dropWhile_eq_nil_iff]
  simp only [List.mem_reverse]
  constructor
  · intro h c hc
    rw [← List.takeWhile_append_dropWhile (p := CodePoint.isBlank) (l := t)] at hc
    obtain hc | hc := List.mem_append.mp hc
    · exact List.all_eq_true.mp List.all_takeWhile c hc
    · exact h c hc
  · intro h c hc
    exact h c ((List.dropWhile_suffix _).subset hc)

theorem strip_ne_nil_iff {t : Text} : t.strip ≠ [] ↔ ∃ c ∈ t, c.isBlank = false := by
  rw [ne_eq, strip_eq_nil_iff]
  simp

variable {separator c : CodePoint} {t part : Text} {parts : List Text} {p q : CodePoint → Bool}

/-- What is left when one class is dropped in front and another at the end does not begin with the
first. -/
theorem not_of_mem_head?_trimmed
    (hc : c ∈ ((t.dropWhile p).reverse.dropWhile q).reverse.head?) : p c = false := by
  obtain ⟨tail, htail⟩ : ((t.dropWhile p).reverse.dropWhile q).reverse <+: t.dropWhile p :=
    List.rdropWhile_prefix q _
  have hleft : (t.dropWhile p).head? = some c := by
    rw [← htail, List.head?_append, Option.mem_def.mp hc]
    rfl
  have hfirst := List.head?_dropWhile_not p t
  rw [hleft] at hfirst
  exact hfirst

/-- Nor does it end in the second. -/
theorem not_of_mem_getLast?_trimmed
    (hc : c ∈ ((t.dropWhile p).reverse.dropWhile q).reverse.getLast?) : q c = false := by
  have hlast := List.head?_dropWhile_not q (t.dropWhile p).reverse
  rw [List.getLast?_reverse] at hc
  rw [Option.mem_def.mp hc] at hlast
  exact hlast

/-- A stripped text does not begin with a blank. -/
theorem isBlank_of_mem_head?_strip (hc : c ∈ t.strip.head?) : c.isBlank = false :=
  not_of_mem_head?_trimmed hc

/-- A stripped text does not end in a blank. -/
theorem isBlank_of_mem_getLast?_strip (hc : c ∈ t.strip.getLast?) : c.isBlank = false :=
  not_of_mem_getLast?_trimmed hc

/-- Only what stands before the first code point outside of the class can be dropped. -/
theorem dropWhile_append_of_head {s : Text} (ht : ∀ c ∈ t.head?, p c = false) :
    (s ++ t).dropWhile p = s.dropWhile p ++ t := by
  rw [List.dropWhile_append]
  split
  · next hempty =>
    have hkept : t.dropWhile p = t := List.dropWhile_eq_self_iff.mpr fun hpos => by
      rw [ht _ (List.head?_eq_getElem? ▸ List.getElem?_eq_getElem hpos)]
      decide
    rw [hkept, List.isEmpty_iff.mp hempty, List.nil_append]
  · rfl

/-- What stands between two classes is left when they are dropped at both ends. -/
theorem trimmed_eq {front core back : Text}
    (hfront : ∀ c ∈ front, p c = true) (hback : ∀ c ∈ back, q c = true) (hne : core ≠ [])
    (hfirst : ∀ c ∈ core.head?, p c = false) (hlast : ∀ c ∈ core.getLast?, q c = false) :
    (((front ++ core ++ back).dropWhile p).reverse.dropWhile q).reverse = core := by
  have hleft : (front ++ core ++ back).dropWhile p = core ++ back := by
    obtain ⟨c, rest, rfl⟩ := List.exists_cons_of_ne_nil hne
    rw [List.append_assoc, List.dropWhile_append_of_pos hfront, List.cons_append,
      List.dropWhile_cons_of_neg (by rw [hfirst c rfl]; decide)]
  have hright : (core ++ back).reverse.dropWhile q = core.reverse := by
    have hblank : ∀ c ∈ back.reverse, q c = true := fun c hc => hback c (List.mem_reverse.mp hc)
    rw [List.reverse_append, List.dropWhile_append_of_pos hblank]
    obtain ⟨rest, c, rfl⟩ := (List.eq_nil_or_concat' core).resolve_left hne
    rw [List.reverse_append, List.reverse_singleton, List.singleton_append,
      List.dropWhile_cons_of_neg (by rw [hlast c List.getLast?_concat]; decide)]
  rw [hleft, hright, List.reverse_reverse]

/-- A text is what is left when a class is dropped at each end, between what is dropped. -/
theorem exists_eq_trimmed (p q : CodePoint → Bool) (t : Text) :
    ∃ front back, t = front ++ ((t.dropWhile p).reverse.dropWhile q).reverse ++ back ∧
      (∀ c ∈ front, p c = true) ∧ ∀ c ∈ back, q c = true := by
  refine ⟨t.takeWhile p, ((t.dropWhile p).reverse.takeWhile q).reverse, ?_, ?_, ?_⟩
  · rw [List.append_assoc, ← List.reverse_append, List.takeWhile_append_dropWhile,
      List.reverse_reverse, List.takeWhile_append_dropWhile]
  · exact fun c hc => List.mem_takeWhile_imp hc
  · exact fun c hc => List.mem_takeWhile_imp (List.mem_reverse.mp hc)

theorem strip_isInfix (t : Text) : t.strip <:+: t := by
  obtain ⟨front, back, ht, -⟩ := exists_eq_trimmed CodePoint.isBlank CodePoint.isBlank t
  exact ⟨front, back, ht.symm⟩

/-- Stripping leaves what stands between the first and the last code point that is no blank. -/
theorem strip_append {front core back : Text} (hne : core ≠ [])
    (hfirst : ∀ c ∈ core.head?, c.isBlank = false)
    (hlast : ∀ c ∈ core.getLast?, c.isBlank = false) :
    (front ++ (core ++ back)).strip = front.stripLeft ++ (core ++ back.stripRight) := by
  have hleft : (front ++ (core ++ back)).stripLeft = front.stripLeft ++ (core ++ back) := by
    refine dropWhile_append_of_head fun c hc => hfirst c ?_
    rwa [List.head?_append_of_ne_nil _ hne] at hc
  have hright : ∀ c ∈ (front.stripLeft ++ core).reverse.head?, c.isBlank = false := by
    intro c hc
    rw [List.head?_reverse, List.getLast?_append_of_ne_nil _ hne] at hc
    exact hlast c hc
  rw [strip, hleft, stripRight, ← List.append_assoc, List.reverse_append,
    dropWhile_append_of_head hright, List.reverse_append, List.reverse_reverse, List.append_assoc]
  rfl

/-- A text without blanks at its ends is stripped. -/
theorem strip_eq_self (hfirst : ∀ c ∈ t.head?, c.isBlank = false)
    (hlast : ∀ c ∈ t.getLast?, c.isBlank = false) : t.strip = t := by
  by_cases hne : t = []
  · rw [hne]
    rfl
  · have htrimmed := trimmed_eq (List.forall_mem_nil _) (List.forall_mem_nil _) hne hfirst hlast
    rw [List.nil_append, List.append_nil] at htrimmed
    exact htrimmed

theorem splitOn_cons (h : splitOn separator t = part :: parts) (c : CodePoint) :
    splitOn separator (c :: t) =
      if c = separator then [] :: part :: parts else (c :: part) :: parts := by
  rw [splitOn, List.foldr_cons, ← splitOn, h]

theorem splitOn_ne_nil (separator : CodePoint) (t : Text) : splitOn separator t ≠ [] := by
  induction t with
  | nil => exact List.cons_ne_nil _ _
  | cons c t ih =>
    obtain ⟨part, parts, hparts⟩ := List.exists_cons_of_ne_nil ih
    rw [splitOn_cons hparts]
    split <;> exact List.cons_ne_nil _ _

/-- The parts of a text have all of its code points but the separators. -/
theorem forall_mem_splitOn {P : CodePoint → Prop} :
    (∀ part ∈ splitOn separator t, ∀ c ∈ part, P c) ↔ ∀ c ∈ t, c = separator ∨ P c := by
  induction t with
  | nil => simp [splitOn]
  | cons c t ih =>
    obtain ⟨part, parts, hparts⟩ := List.exists_cons_of_ne_nil (splitOn_ne_nil separator t)
    rw [hparts] at ih
    rw [List.forall_mem_cons, ← ih, splitOn_cons hparts]
    by_cases hc : c = separator <;> simp [hc, and_assoc]

end BigO.Text
