import BigO.Proofs.Text.Search

/-! What stands in a text whose tokens were replaced. Every token begins with one mark, and so does
what is put in its place. A text that does not begin inside of what is put in, and that has the mark
nowhere between its ends, then stands in the result only where it stood before, and only where no
token was read. -/

namespace BigO.Pattern

open Reader

variable {α : Type} {p : Pattern α} {m : CodePoint} {tail w t : Text} {before : Option CodePoint}

/-- The text begins nowhere inside of `v`, whatever stands behind it. -/
def BeginsNowhereIn (w v : Text) : Prop := ∀ z rest, z <:+ v → z ≠ [] → ¬ w <+: z ++ rest

theorem BeginsNowhereIn.infix_of_append {v rest : Text} (hv : BeginsNowhereIn w v)
    (h : w <:+: v ++ rest) : w <:+: rest := by
  induction v with
  | nil => exact h
  | cons c v ih =>
      rw [List.cons_append, List.infix_cons_iff] at h
      rcases h with hfront | hbehind
      · exact absurd hfront (hv (c :: v) rest List.suffix_rfl (List.cons_ne_nil c v))
      · exact ih (fun z rest hz => hv z rest (hz.trans (List.suffix_cons c v))) hbehind

theorem beginsNowhereIn_cons {c : CodePoint} {v : Text} (hfront : ∀ rest, ¬ w <+: c :: v ++ rest)
    (hv : BeginsNowhereIn w v) : BeginsNowhereIn w (c :: v) := by
  intro z rest hz hne
  rcases List.suffix_cons_iff.mp hz with rfl | hz
  · exact hfront rest
  · exact hv z rest hz hne

/-- A text begins nowhere where its first code point does not stand. -/
theorem beginsNowhereIn_of_notMem {c : CodePoint} {v : Text} (hc : c ∉ v) :
    BeginsNowhereIn (c :: w) v := by
  intro z rest hz hne hfront
  obtain ⟨d, z, rfl⟩ := List.exists_cons_of_ne_nil hne
  rw [List.cons_append, List.cons_prefix_cons] at hfront
  obtain ⟨rfl, -⟩ := hfront
  exact hc (hz.subset List.mem_cons_self)

/-- What stands in front of the result stood in front of the text, if it has the mark nowhere but at
its end. -/
theorem Begins.prefix_of_prefix_replaceFrom (hp : p.Begins (· = m)) (hw : m ∉ w.dropLast)
    (h : w <+: replaceFrom p (fun _ => m :: tail) before t) : w <+: t := by
  induction w generalizing before t with
  | nil => exact List.nil_prefix
  | cons d w ih =>
      cases t with
      | nil => exact h
      | cons c t =>
          by_cases hread : ∃ a n, p before (c :: t) = some (a, n + 1)
          · obtain ⟨a, n, hread⟩ := hread
            obtain ⟨-, _, hc, rfl⟩ := hp before _ a _ hread
            obtain rfl := Option.some.inj hc
            rw [replaceFrom_token hread, List.cons_append, List.cons_prefix_cons] at h
            obtain ⟨rfl, -⟩ := h
            -- the mark in front is the end of `w` as well
            cases w with
            | nil => exact List.prefix_append [d] t
            | cons e w => exact absurd List.mem_cons_self hw
          · rw [replaceFrom_plain fun a n hsome => hread ⟨a, n, hsome⟩,
              List.cons_prefix_cons] at h
            refine List.cons_prefix_cons.mpr ⟨h.1, ih (fun hmem => hw ?_) h.2⟩
            cases w with
            | nil => cases hmem
            | cons e w => exact List.mem_cons_of_mem d hmem

/-- What stands in the result stood in the text, at a place where no token was read. -/
theorem Begins.exists_unread_of_infix_replaceFrom (hp : p.Begins (· = m)) (hw : w ≠ [])
    (hmark : m ∉ w.tail.dropLast) (hnew : BeginsNowhereIn w (m :: tail))
    (h : w <:+: replaceFrom p (fun _ => m :: tail) before t) :
    ∃ x y, t = x ++ y ∧ w <+: y ∧ p (lastOf x before) y = none := by
  induction before, t using scan_induction p with
  | nil before => exact absurd (List.infix_nil.mp h) hw
  | token before c rest a n hread ih =>
      rw [replaceFrom_token hread] at h
      obtain ⟨x, y, hsplit, hfront, hnone⟩ := ih (hnew.infix_of_append h)
      refine ⟨c :: rest.take n ++ x, y, ?_, hfront, ?_⟩
      · rw [List.append_assoc, ← hsplit, List.cons_append, List.take_append_drop]
      · rwa [lastOf_append, lastOf_cons]
  | plain before c rest hread ih =>
      rw [replaceFrom_plain hread, List.infix_cons_iff] at h
      rcases h with hfront | hbehind
      · refine ⟨[], c :: rest, rfl, ?_, ?_⟩
        · obtain ⟨d, w, rfl⟩ := List.exists_cons_of_ne_nil hw
          rw [List.cons_prefix_cons] at hfront
          exact List.cons_prefix_cons.mpr
            ⟨hfront.1, hp.prefix_of_prefix_replaceFrom hmark hfront.2⟩
        · rw [lastOf_nil, Option.eq_none_iff_forall_ne_some]
          rintro ⟨a, n⟩ hsome
          obtain ⟨n, rfl⟩ := Nat.exists_eq_succ_of_ne_zero
            (Nat.ne_of_gt (hp before _ a n hsome).1)
          exact hread a n hsome
      · obtain ⟨x, y, rfl, hfront, hnone⟩ := ih hbehind
        exact ⟨c :: x, y, rfl, hfront, by rwa [lastOf_cons]⟩

theorem Begins.infix_of_infix_replaceFrom (hp : p.Begins (· = m)) (hw : w ≠ [])
    (hmark : m ∉ w.tail.dropLast) (hnew : BeginsNowhereIn w (m :: tail))
    (h : w <:+: replaceFrom p (fun _ => m :: tail) before t) : w <:+: t := by
  obtain ⟨x, y, rfl, hfront, -⟩ := hp.exists_unread_of_infix_replaceFrom hw hmark hnew h
  exact hfront.isInfix.trans (List.suffix_append x y).isInfix

/-- What would be a token wherever it stood does not stand in the result. -/
theorem Begins.not_infix_replaceFrom (hp : p.Begins (· = m)) (hw : w ≠ [])
    (hmark : m ∉ w.tail.dropLast) (hnew : BeginsNowhereIn w (m :: tail))
    (hread : ∀ before rest, ∃ a, (p before).Takes w rest a) :
    ¬ w <:+: replaceFrom p (fun _ => m :: tail) before t := by
  intro h
  obtain ⟨x, _, -, ⟨rest, rfl⟩, hnone⟩ := hp.exists_unread_of_infix_replaceFrom hw hmark hnew h
  obtain ⟨a, htakes⟩ := hread (lastOf x before) rest
  rw [Takes, hnone] at htakes
  cases htakes

/-- Where every token is replaced by itself, the text stays as it is. -/
theorem Begins.replaceFrom_eq_self_of_fixed (hp : p.Begins (· = m))
    (hinside : ∀ before, (p before).Inside) {f : Text → Text}
    (h : ∀ x w s a, t = x ++ (w ++ s) → (p (lastOf x before)).Takes w s a → f w = w) :
    replaceFrom p f before t = t := by
  have hpos : ∀ {before w s a}, (p before).Takes w s a → w ≠ [] := by
    rintro before _ s a hread rfl
    exact absurd (hp before _ a _ hread).1 (Nat.lt_irrefl 0)
  induction before, t using takes_induction hpos hinside with
  | nil before => rfl
  | token before w s a hread ih =>
      have hrest := ih fun x v r b hsplit hv =>
        h (w ++ x) v r b (by rw [hsplit, List.append_assoc]) (by rwa [lastOf_append])
      rw [replaceFrom_takes hread (hpos hread), hrest, h [] w s a rfl hread]
  | plain before c rest hnone ih =>
      have hrest := ih fun x v r b hsplit hv =>
        h (c :: x) v r b (by rw [hsplit, List.cons_append]) (by rwa [lastOf_cons])
      rw [replaceFrom_none hnone, hrest]

end BigO.Pattern
