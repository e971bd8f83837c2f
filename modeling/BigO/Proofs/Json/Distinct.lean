import Mathlib.Data.List.Nodup
import BigO.Proofs.Json.Reading

/-! Values in which no object names a member twice. Only such values are read: of members with one
name the last counts, at the place of the first. A member of such an object is found by its name. -/

namespace BigO.Json

/-- No object in the value names a member twice. -/
inductive HasDistinctNames : Json → Prop
  | null : HasDistinctNames .null
  | bool (b : Bool) : HasDistinctNames (.bool b)
  | num (n : Number) : HasDistinctNames (.num n)
  | str (t : Text) : HasDistinctNames (.str t)
  | arr {items : List Json} (hitems : ∀ item ∈ items, HasDistinctNames item) :
      HasDistinctNames (.arr items)
  | obj {members : List (Text × Json)} (hnames : (members.map Prod.fst).Nodup)
      (hmembers : ∀ m ∈ members, HasDistinctNames m.2) : HasDistinctNames (.obj members)

variable {members : List (Text × Json)} {name : Text} {value : Json}

namespace HasDistinctNames

theorem item {items : List Json} (h : HasDistinctNames (.arr items)) (hmem : value ∈ items) :
    HasDistinctNames value := by
  cases h with
  | arr hitems => exact hitems value hmem

theorem names (h : HasDistinctNames (.obj members)) : (members.map Prod.fst).Nodup := by
  cases h with
  | obj hnames _ => exact hnames

end HasDistinctNames

/-! ### Members by their names -/

theorem mem_of_member?_eq_some (h : member? members name = some value) :
    (name, value) ∈ members := by
  obtain ⟨m, hfind, rfl⟩ := Option.map_eq_some_iff.mp h
  have hname := List.find?_some hfind
  obtain rfl := of_decide_eq_true hname
  exact List.mem_of_find?_eq_some hfind

theorem member?_eq_some_iff (hnames : (members.map Prod.fst).Nodup) :
    member? members name = some value ↔ (name, value) ∈ members := by
  refine ⟨mem_of_member?_eq_some, fun hmem => ?_⟩
  cases hfind : member? members name with
  | none =>
      rw [member?, Option.map_eq_none_iff, List.find?_eq_none] at hfind
      exact absurd (decide_eq_true rfl) (hfind _ hmem)
  | some other =>
      have heq := List.inj_on_of_nodup_map hnames (mem_of_member?_eq_some hfind) hmem rfl
      rw [(Prod.mk.inj heq).2]

theorem member?_eq_none_iff : member? members name = none ↔ name ∉ members.map Prod.fst := by
  rw [member?, Option.map_eq_none_iff, List.find?_eq_none, List.mem_map, not_exists]
  refine forall_congr' fun m => ?_
  rw [not_and, decide_eq_true_eq]

theorem HasDistinctNames.member? (h : HasDistinctNames (.obj members))
    (hvalue : Json.member? members name = some value) : HasDistinctNames value := by
  cases h with
  | obj _ hmembers => exact hmembers _ (mem_of_member?_eq_some hvalue)

/-! ### The last of several members -/

theorem names_setMember (members : List (Text × Json)) (name : Text) (value : Json) :
    (setMember members name value).map Prod.fst =
      if name ∈ members.map Prod.fst then members.map Prod.fst
      else members.map Prod.fst ++ [name] := by
  have hany : members.any (·.1 = name) = true ↔ name ∈ members.map Prod.fst := by
    rw [List.any_eq_true, List.mem_map]
    exact exists_congr fun m => and_congr_right fun _ => decide_eq_true_iff
  rw [setMember]
  split
  · next hold =>
      rw [if_pos (hany.mp hold), List.map_map]
      refine List.map_congr_left fun m _ => ?_
      rw [Function.comp_apply]
      split
      · next heq => exact heq.symm
      · rfl
  · next hnew => rw [if_neg (mt hany.mpr hnew), List.map_append, List.map_singleton]

theorem mem_setMember {m : Text × Json} (h : m ∈ setMember members name value) :
    m ∈ members ∨ m = (name, value) := by
  rw [setMember] at h
  split at h
  · obtain ⟨other, hother, rfl⟩ := List.mem_map.mp h
    split
    · exact Or.inr rfl
    · exact Or.inl hother
  · rwa [List.mem_append, List.mem_singleton] at h

theorem nodup_names_lastWins (members : List (Text × Json)) :
    ((lastWins members).map Prod.fst).Nodup := by
  induction members using List.reverseRecOn with
  | nil => exact List.nodup_nil
  | append_singleton members m ih =>
      rw [lastWins_concat, names_setMember]
      split
      · exact ih
      · next hnew =>
          rw [← List.concat_eq_append]
          exact List.Nodup.concat hnew ih

theorem mem_of_mem_lastWins {m : Text × Json} (h : m ∈ lastWins members) : m ∈ members := by
  induction members using List.reverseRecOn with
  | nil => exact h
  | append_singleton members last ih =>
      rw [lastWins_concat] at h
      rw [List.mem_append, List.mem_singleton]
      exact (mem_setMember h).imp_left ih

theorem hasDistinctNames_lastWins (h : ∀ m ∈ members, HasDistinctNames m.2) :
    HasDistinctNames (.obj (lastWins members)) :=
  .obj (nodup_names_lastWins members) fun m hm => h m (mem_of_mem_lastWins hm)

/-! ### What is read -/

/-- If a value is read, no object in it names a member twice. -/
def ReadsDistinct (result : Except ReadError (Json × Cursor)) : Prop :=
  ∀ value behind, result = .ok (value, behind) → HasDistinctNames value

theorem readsDistinct_error (e : ReadError) : ReadsDistinct (.error e) := by
  rintro value behind ⟨⟩

theorem readsDistinct_fault (c : Cursor) (fault : Fault) : ReadsDistinct (c.fault fault) :=
  readsDistinct_error _

theorem readsDistinct_ok {value : Json} (h : HasDistinctNames value) (behind : Cursor) :
    ReadsDistinct (.ok (value, behind)) := by
  rintro _ _ ⟨⟩
  exact h

/-- What is true of the readings that take so many steps. -/
structure DistinctWithin (steps : Nat) : Prop where
  value : ∀ room c, ReadsDistinct (valueFrom steps room c)
  items : ∀ room done c, (∀ item ∈ done, HasDistinctNames item) →
    ReadsDistinct (itemsFrom steps room done c)
  members : ∀ room done c, (∀ m ∈ done, HasDistinctNames m.2) →
    ReadsDistinct (membersFrom steps room done c)

variable {steps : Nat}

theorem readsDistinct_number? (c : Cursor) : ReadsDistinct (number? c) := by
  unfold number?
  extract_lets negative unsigned whole behindWhole fraction fractionLength value
  split
  · exact readsDistinct_fault c _
  · split
    extract_lets next
    split
    · split
      · exact readsDistinct_error _
      · exact readsDistinct_ok (.num _) _
    · exact readsDistinct_ok (.num _) _

theorem readsDistinct_scalar? (c : Cursor) : ReadsDistinct (scalar? c) := by
  have hwords : ∀ w ∈ words, HasDistinctNames w.2 := by
    simp only [words, List.forall_mem_cons]
    exact ⟨.null, .bool _, .bool _, .num _, .num _, .num _, List.forall_mem_nil _⟩
  rw [scalar?]
  split
  · next w value hfind => exact readsDistinct_ok (hwords _ (List.mem_of_find?_eq_some hfind)) _
  · exact readsDistinct_number? c

/-- A container that is empty or what is read behind its opening mark. -/
theorem readsDistinct_container {c : Cursor} {close : CodePoint} {empty : Json}
    {result : Except ReadError (Json × Cursor)} (hempty : HasDistinctNames empty)
    (h : ReadsDistinct result) :
    ReadsDistinct (if c.rest.head? = some close then .ok (empty, c.advance 1) else result) := by
  split
  · exact readsDistinct_ok hempty _
  · exact h

theorem readsDistinct_valueFrom_succ (h : DistinctWithin steps) (room : Nat) (c : Cursor) :
    ReadsDistinct (valueFrom (steps + 1) room c) := by
  rw [valueFrom.eq_def]
  simp only
  split
  · exact readsDistinct_fault c _
  · split
    · split
      · exact readsDistinct_error _
      · exact readsDistinct_ok (.str _) _
    · split
      · cases room with
        | zero => exact readsDistinct_error _
        | succ room =>
            exact readsDistinct_container (.arr (List.forall_mem_nil _))
              (h.items room [] _ (List.forall_mem_nil _))
      · split
        · cases room with
          | zero => exact readsDistinct_error _
          | succ room =>
              exact readsDistinct_container (.obj List.nodup_nil (List.forall_mem_nil _))
                (h.members room [] _ (List.forall_mem_nil _))
        · exact readsDistinct_scalar? c

/-- Behind an item or a member the container is closed or goes on. -/
theorem readsDistinct_behind {d : Cursor} {close : CodePoint} {closed : Json}
    {next : Except ReadError (Json × Cursor)} (hclosed : HasDistinctNames closed)
    (hnext : ReadsDistinct next) :
    ReadsDistinct
      (match d.rest with
      | [] => d.fault .expectingComma
      | x :: _ =>
        if x = close then .ok (closed, d.advance 1)
        else if x = ',' then next
        else d.fault .expectingComma) := by
  split
  · exact readsDistinct_fault d _
  · split
    · exact readsDistinct_ok hclosed _
    · split
      · exact hnext
      · exact readsDistinct_fault d _

theorem readsDistinct_itemsFrom_succ (h : DistinctWithin steps) (room : Nat) (done : List Json)
    (c : Cursor) (hdone : ∀ item ∈ done, HasDistinctNames item) :
    ReadsDistinct (itemsFrom (steps + 1) room done c) := by
  rw [itemsFrom.eq_def]
  simp only
  split
  · exact readsDistinct_error _
  · next value d hread =>
      have hitems : ∀ item ∈ value :: done, HasDistinctNames item :=
        List.forall_mem_cons.mpr ⟨h.value room c value d hread, hdone⟩
      exact readsDistinct_behind (.arr fun item hitem => hitems item (List.mem_reverse.mp hitem))
        (h.items room _ _ hitems)

theorem readsDistinct_membersFrom_succ (h : DistinctWithin steps) (room : Nat)
    (done : List (Text × Json)) (c : Cursor) (hdone : ∀ m ∈ done, HasDistinctNames m.2) :
    ReadsDistinct (membersFrom (steps + 1) room done c) := by
  rw [membersFrom.eq_def]
  simp only
  split
  · split
    · exact readsDistinct_error _
    · next name d _ =>
        split
        · split
          · exact readsDistinct_error _
          · next value b hread =>
              have hmembers : ∀ m ∈ (name, value) :: done, HasDistinctNames m.2 :=
                List.forall_mem_cons.mpr ⟨h.value room _ value b hread, hdone⟩
              exact readsDistinct_behind
                (hasDistinctNames_lastWins fun m hm => hmembers m (List.mem_reverse.mp hm))
                (h.members room _ _ hmembers)
        · exact readsDistinct_fault _ _
  · exact readsDistinct_fault c _

theorem distinctWithin (steps : Nat) : DistinctWithin steps := by
  induction steps with
  | zero =>
      constructor
      · exact fun room c => readsDistinct_fault c _
      · exact fun room done c _ => readsDistinct_fault c _
      · exact fun room done c _ => readsDistinct_fault c _
  | succ steps ih =>
      constructor
      · exact readsDistinct_valueFrom_succ ih
      · exact readsDistinct_itemsFrom_succ ih
      · exact readsDistinct_membersFrom_succ ih

theorem hasDistinctNames_of_readWhole {source : Text} (h : readWhole source = .ok value) :
    HasDistinctNames value := by
  rw [readWhole] at h
  simp only at h
  split at h
  · cases h
  · next read d hread =>
      split at h
      · cases h
        exact (distinctWithin _).value _ _ _ _ hread
      · cases h

/-- No object in the bytes' value names a member twice. -/
theorem hasDistinctNames_of_readBytes {bytes : List UInt8} (h : readBytes bytes = .ok value) :
    HasDistinctNames value := by
  rw [readBytes] at h
  split at h
  · cases h
  · next source _ =>
      cases hread : readWhole source with
      | error e =>
          rw [hread] at h
          cases h
      | ok read =>
          rw [hread] at h
          cases h
          exact hasDistinctNames_of_readWhole hread

end BigO.Json
