import Mathlib.Data.List.Perm.Subperm
import BigO.Json.Equality
import BigO.Proofs.Json.Distinct
import BigO.Proofs.Number.Rounding

/-! Values that say the same. Numbers are compared by their exact values, arrays by what they have at
each place and objects by what they have under each name. So to say the same is an equivalence, as
long as no object names a member twice. -/

namespace BigO

/-! ### Numbers -/

namespace Number

/-- What a number is compared by: its value, or itself where it has none. -/
def measure : Number → ℚ ⊕ Binary64
  | .int n => .inl n
  | .float x =>
    match x.toDyadic? with
    | some (n, k) => .inl (n / 2 ^ k)
    | none => .inr x

theorem div_two_pow_eq_iff (m n : ℤ) (j k : ℕ) :
    (m : ℚ) / 2 ^ j = n / 2 ^ k ↔ m * twoPow k = n * twoPow j := by
  rw [div_eq_div_iff (by positivity) (by positivity), ← Binary64.cast_twoPow,
    ← Binary64.cast_twoPow]
  exact_mod_cast Iff.rfl

theorem eq_div_two_pow_iff (m n : ℤ) (k : ℕ) : (m : ℚ) = n / 2 ^ k ↔ m * twoPow k = n := by
  have h := div_two_pow_eq_iff m n 0 k
  rwa [pow_zero, div_one, show twoPow 0 = 1 from rfl, Nat.cast_one, mul_one] at h

theorem same_iff {a b : Number} : a.same b = true ↔ a.measure = b.measure := by
  cases a with
  | int m =>
      cases b with
      | int n => simp [same, measure]
      | float y =>
          cases hy : y.toDyadic? with
          | none => simp [same, measure, hy]
          | some d => simp [same, measure, hy, eq_div_two_pow_iff]
  | float x =>
      cases b with
      | int n =>
          cases hx : x.toDyadic? with
          | none => simp [same, measure, hx]
          | some d => simp [same, measure, hx, eq_div_two_pow_iff, eq_comm]
      | float y =>
          by_cases hxy : x = y
          · subst hxy
            cases hx : x.toDyadic? <;> simp [same, measure, hx]
          · cases hx : x.toDyadic? <;> cases hy : y.toDyadic? <;>
              simp [same, measure, hx, hy, hxy, div_two_pow_eq_iff]

end Number

namespace Json

open Number

variable {x y z : Json} {xs ys : List (Text × Json)}

/-! ### What is there or is not -/

section Rel

variable {α : Type} {r : α → α → Prop} {o o' o'' : Option α}

theorem eq_none_iff_of_rel (h : Option.Rel r o o') : o = none ↔ o' = none := by
  cases h with
  | none => exact Iff.rfl
  | some _ => exact iff_of_false (Option.some_ne_none _) (Option.some_ne_none _)

theorem exists_of_rel {a : α} (ha : o = some a) (h : Option.Rel r o o') : ∃ b ∈ o', r a b := by
  cases h with
  | none => cases ha
  | some hr =>
      cases ha
      exact ⟨_, rfl, hr⟩

theorem rel_refl (h : ∀ a ∈ o, r a a) : Option.Rel r o o := by
  cases o with
  | none => exact .none
  | some a => exact .some (h a rfl)

theorem rel_symm (hr : Option.Rel r o o') (h : ∀ a ∈ o, ∀ b ∈ o', r a b → r b a) :
    Option.Rel r o' o := by
  cases hr with
  | none => exact .none
  | some hab => exact .some (h _ rfl _ rfl hab)

theorem rel_trans (hr : Option.Rel r o o') (hr' : Option.Rel r o' o'')
    (h : ∀ a ∈ o, ∀ b ∈ o', ∀ c ∈ o'', r a b → r b c → r a c) : Option.Rel r o o'' := by
  cases hr with
  | none =>
      cases hr'
      exact .none
  | some hab =>
      cases hr' with
      | some hbc => exact .some (h _ rfl _ rfl _ rfl hab hbc)

end Rel

/-! ### What values are compared by -/

theorem same_null_iff : same .null y = true ↔ y = .null := by
  cases y <;> simp [same]

theorem same_str_iff {t : Text} : same (.str t) y = true ↔ y = .str t := by
  cases y <;> simp [same, eq_comm]

theorem same_iff_of_asNumber? {n : Number} (h : x.asNumber? = some n) :
    same x y = true ↔ ∃ k, y.asNumber? = some k ∧ n.measure = k.measure := by
  have hsame : same x y = y.asNumber?.any n.same := by
    cases x <;> simp only [asNumber?, reduceCtorEq, Option.some.injEq] at h <;> subst h <;> rw [same]
  rw [hsame]
  cases y.asNumber? with
  | none => simp
  | some k => simp [same_iff]

theorem same_symm_of_asNumber? {n : Number} (hx : x.asNumber? = some n) (h : same x y = true) :
    same y x = true := by
  obtain ⟨k, hk, hmeasure⟩ := (same_iff_of_asNumber? hx).mp h
  exact (same_iff_of_asNumber? hk).mpr ⟨n, hx, hmeasure.symm⟩

theorem same_trans_of_asNumber? {n : Number} (hx : x.asNumber? = some n) (h : same x y = true)
    (h' : same y z = true) : same x z = true := by
  obtain ⟨k, hk, hmeasure⟩ := (same_iff_of_asNumber? hx).mp h
  obtain ⟨l, hl, hmeasure'⟩ := (same_iff_of_asNumber? hk).mp h'
  exact (same_iff_of_asNumber? hx).mpr ⟨l, hl, hmeasure.trans hmeasure'⟩

theorem exists_arr_of_same {xs : List Json} (h : same (.arr xs) y = true) :
    ∃ ys, y = .arr ys := by
  cases y with
  | arr ys => exact ⟨ys, rfl⟩
  | _ => simp [same] at h

theorem exists_obj_of_same (h : same (.obj xs) y = true) : ∃ ys, y = .obj ys := by
  cases y with
  | obj ys => exact ⟨ys, rfl⟩
  | _ => simp [same] at h

theorem sameItems_iff {xs ys : List Json} :
    sameItems xs ys = true ↔ ∀ i : ℕ, Option.Rel (same · · = true) xs[i]? ys[i]? := by
  induction xs generalizing ys with
  | nil =>
      cases ys with
      | nil => exact iff_of_true rfl fun _ => .none
      | cons y ys =>
        refine iff_of_false Bool.false_ne_true fun h => ?_
        cases h 0
  | cons x xs ih =>
      cases ys with
      | nil =>
        refine iff_of_false Bool.false_ne_true fun h => ?_
        cases h 0
      | cons y ys =>
          rw [sameItems, Bool.and_eq_true, ih]
          constructor
          · rintro ⟨hfirst, hrest⟩ i
            cases i with
            | zero => exact .some hfirst
            | succ i => exact hrest i
          · intro h
            refine ⟨?_, fun i => h (i + 1)⟩
            cases h 0 with
            | some hfirst => exact hfirst

theorem sameMembers_iff :
    sameMembers xs ys = true ↔ ∀ m ∈ xs, ∃ y ∈ member? ys m.1, same m.2 y = true := by
  induction xs with
  | nil => exact iff_of_true rfl (List.forall_mem_nil _)
  | cons m xs ih =>
      rw [sameMembers, Bool.and_eq_true, ih, List.forall_mem_cons]
      refine and_congr_left fun _ => ?_
      cases member? ys m.1 <;> simp

/-- Objects say the same when what they have under each name does. -/
theorem same_obj_iff (hxs : (xs.map Prod.fst).Nodup) (hys : (ys.map Prod.fst).Nodup) :
    same (.obj xs) (.obj ys) = true ↔
      ∀ name, Option.Rel (same · · = true) (member? xs name) (member? ys name) := by
  rw [same, Bool.and_eq_true, decide_eq_true_eq, sameMembers_iff]
  constructor
  · rintro ⟨hlength, hmembers⟩ name
    -- There are as many names, and all of the one among those of the other: none is left over.
    have hnames : xs.map Prod.fst ⊆ ys.map Prod.fst := by
      intro name hname
      obtain ⟨m, hm, rfl⟩ := List.mem_map.mp hname
      obtain ⟨y, hy, -⟩ := hmembers m hm
      exact List.mem_map.mpr ⟨(m.1, y), mem_of_member?_eq_some hy, rfl⟩
    have hperm : (xs.map Prod.fst).Perm (ys.map Prod.fst) :=
      (List.subperm_of_subset hxs hnames).perm_of_length_le (by simp [hlength])
    cases hx : member? xs name with
    | none =>
        rw [member?_eq_none_iff, hperm.mem_iff, ← member?_eq_none_iff] at hx
        rw [hx]
        exact .none
    | some x =>
        obtain ⟨y, hy, hsame⟩ := hmembers _ (mem_of_member?_eq_some hx)
        rw [Option.mem_def.mp hy]
        exact .some hsame
  · intro h
    constructor
    · have hnames : ∀ name, name ∈ xs.map Prod.fst ↔ name ∈ ys.map Prod.fst := by
        intro name
        rw [← not_iff_not, ← member?_eq_none_iff, ← member?_eq_none_iff]
        exact eq_none_iff_of_rel (h name)
      simpa using ((List.perm_ext_iff_of_nodup hxs hys).mpr hnames).length_eq
    · intro m hm
      exact exists_of_rel ((member?_eq_some_iff hxs).mpr hm) (h m.1)

/-! ### The equivalence -/

theorem same_refl (hx : HasDistinctNames x) : same x x = true := by
  induction hx with
  | null => exact same_null_iff.mpr rfl
  | bool b => exact (same_iff_of_asNumber? rfl).mpr ⟨_, rfl, rfl⟩
  | num n => exact (same_iff_of_asNumber? rfl).mpr ⟨_, rfl, rfl⟩
  | str t => exact same_str_iff.mpr rfl
  | arr _ ih =>
      rw [same, sameItems_iff]
      exact fun i => rel_refl fun item hitem => ih item (List.mem_of_getElem? hitem)
  | obj hnames _ ih =>
      rw [same_obj_iff hnames hnames]
      exact fun name => rel_refl fun value hvalue => ih _ (mem_of_member?_eq_some hvalue)

theorem same_symm (hx : HasDistinctNames x) (hy : HasDistinctNames y) (h : same x y = true) :
    same y x = true := by
  induction hx generalizing y with
  | null =>
      obtain rfl := same_null_iff.mp h
      exact h
  | bool b => exact same_symm_of_asNumber? rfl h
  | num n => exact same_symm_of_asNumber? rfl h
  | str t =>
      obtain rfl := same_str_iff.mp h
      exact h
  | arr _ ih =>
      obtain ⟨ys, rfl⟩ := exists_arr_of_same h
      rw [same, sameItems_iff] at h ⊢
      refine fun i => rel_symm (h i) fun v hv w hw hsame => ?_
      exact ih v (List.mem_of_getElem? hv) (hy.item (List.mem_of_getElem? hw)) hsame
  | obj hnames _ ih =>
      obtain ⟨ys, rfl⟩ := exists_obj_of_same h
      rw [same_obj_iff hnames hy.names] at h
      rw [same_obj_iff hy.names hnames]
      refine fun name => rel_symm (h name) fun v hv w hw hsame => ?_
      exact ih _ (mem_of_member?_eq_some hv) (hy.member? hw) hsame

theorem same_trans (hx : HasDistinctNames x) (hy : HasDistinctNames y) (hz : HasDistinctNames z)
    (h : same x y = true) (h' : same y z = true) : same x z = true := by
  induction hx generalizing y z with
  | null =>
      obtain rfl := same_null_iff.mp h
      exact h'
  | bool b => exact same_trans_of_asNumber? rfl h h'
  | num n => exact same_trans_of_asNumber? rfl h h'
  | str t =>
      obtain rfl := same_str_iff.mp h
      exact h'
  | arr _ ih =>
      obtain ⟨ys, rfl⟩ := exists_arr_of_same h
      obtain ⟨zs, rfl⟩ := exists_arr_of_same h'
      rw [same, sameItems_iff] at h h' ⊢
      refine fun i => rel_trans (h i) (h' i) fun u hu v hv w hw huv hvw => ?_
      exact ih u (List.mem_of_getElem? hu) (hy.item (List.mem_of_getElem? hv))
        (hz.item (List.mem_of_getElem? hw)) huv hvw
  | obj hnames _ ih =>
      obtain ⟨ys, rfl⟩ := exists_obj_of_same h
      obtain ⟨zs, rfl⟩ := exists_obj_of_same h'
      rw [same_obj_iff hnames hy.names] at h
      rw [same_obj_iff hy.names hz.names] at h'
      rw [same_obj_iff hnames hz.names]
      refine fun name => rel_trans (h name) (h' name) fun u hu v hv w hw huv hvw => ?_
      exact ih _ (mem_of_member?_eq_some hu) (hy.member? hv) (hz.member? hw) huv hvw

end Json

end BigO
