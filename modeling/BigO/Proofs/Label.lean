import BigO.Growth
import BigO.Proofs.Text.Replacement

/-! The normal form of labels. Each rewriting of a label takes out one kind of flaw and brings in none
that an earlier one took out: no flaw begins inside of what it puts in, and none comes about where
that joins what is around it. So the rewritings reach the normal form although each is done once. -/

namespace BigO.Label

open Pattern Reader

/-- A label in normal form: the size is a capital, its square and its cube have superscripts, and
where it stands behind `log`, with whatever blanks between, there is a single space. -/
structure IsNormal (label : Text) : Prop where
  noSmall : ¬ text "n" <:+: label
  noSquare : ¬ text "N^2" <:+: label
  noCube : ¬ text "N^3" <:+: label
  oneSpace {blanks : Text} (hblank : ∀ c ∈ blanks, c.isBlank = true)
    (h : text "log" ++ (blanks ++ text "N") <:+: label) : blanks = text " "

/-- The label with a single space between `log` and the size. -/
def spaceLog (label : Text) : Text := logOfSize.replace (fun _ => text "log N") label

/-- The label with a power of the size written in another way. -/
def raise (power raised : String) (label : Text) : Text :=
  (caretPower power).replace (fun _ => text raised) label

theorem normalize_eq_raise (label : Text) :
    normalize label = raise "N^3" "N³" (raise "N^2" "N²" (spaceLog (capitalSize label))) := rfl

variable {label w s blanks : Text} {before : Option CodePoint} {u : Unit}

/-! ### The letter of the size -/

theorem not_small_infix_capitalSize (label : Text) : ¬ text "n" <:+: capitalSize label := by
  intro h
  obtain ⟨c, -, hc⟩ := List.mem_map.mp (h.subset (List.mem_singleton_self (CodePoint.ofChar 'n')))
  split at hc
  · exact absurd hc (by decide)
  · next hne => exact hne hc

theorem capitalSize_eq_self (h : ¬ text "n" <:+: label) : capitalSize label = label := by
  refine List.map_congr_left (fun c hc => if_neg ?_) |>.trans (List.map_id label)
  rintro rfl
  obtain ⟨front, rest, hsplit⟩ := List.append_of_mem hc
  exact h ⟨front, rest, by rw [hsplit, List.append_assoc]; rfl⟩

/-! ### The space behind `log` -/

theorem takes_logOfSize_iff :
    (logOfSize before).Takes w s u ↔
      ∃ ws, w = text "log" ++ (ws ++ text "N") ∧ ∀ c ∈ ws, c.isBlank = true :=
  takes_textThen_iff rfl

theorem begins_logOfSize : logOfSize.Begins (· = CodePoint.ofChar 'l') :=
  Begins.anywhere ((begins_exactly _ _).bind _)

theorem infix_of_infix_spaceLog (hw : w ≠ []) (hmark : CodePoint.ofChar 'l' ∉ w.tail.dropLast)
    (hnew : BeginsNowhereIn w (text "log N")) (h : w <:+: spaceLog label) : w <:+: label := by
  rw [spaceLog, replace_eq_replaceFrom] at h
  exact begins_logOfSize.infix_of_infix_replaceFrom hw hmark hnew h

/-- Between the ends of `log` and the size stand no marks. -/
theorem notMem_between_log_size (hblank : ∀ c ∈ blanks, c.isBlank = true) {c : CodePoint}
    (hc : c.isBlank = false) (hlog : c ∉ text "og") :
    c ∉ (text "log" ++ (blanks ++ text "N")).tail.dropLast := by
  change c ∉ (text "og" ++ (blanks ++ [CodePoint.ofChar 'N'])).dropLast
  rw [← List.append_assoc, List.dropLast_concat, List.mem_append, not_or]
  refine ⟨hlog, fun hmem => ?_⟩
  rw [hblank c hmem] at hc
  cases hc

/-- Where a single space stands behind `log`, other blanks do not. -/
theorem blanks_eq_space (hblank : ∀ c ∈ blanks, c.isBlank = true) {rest : Text}
    (h : text "log" ++ (blanks ++ text "N") <+: text "log N" ++ rest) : blanks = text " " := by
  obtain ⟨behind, hsplit⟩ := h
  have hrun : blanks ++ (text "N" ++ behind) = text " " ++ (text "N" ++ rest) := by
    rw [List.append_assoc, List.append_assoc] at hsplit
    exact List.append_cancel_left hsplit
  have hsize : ∀ r : Text, ∀ c ∈ (text "N" ++ r).head?, c.isBlank = false := by
    rintro r c ⟨⟩
    decide
  rw [← takeWhile_append_eq hblank (hsize behind), hrun,
    takeWhile_append_eq (by decide) (hsize rest)]

theorem oneSpace_spaceLog (hblank : ∀ c ∈ blanks, c.isBlank = true)
    (h : text "log" ++ (blanks ++ text "N") <:+: spaceLog label) : blanks = text " " := by
  refine Decidable.byContradiction fun hgap => ?_
  have hnew : BeginsNowhereIn (text "log" ++ (blanks ++ text "N")) (text "log N") :=
    beginsNowhereIn_cons (fun rest hfront => hgap (blanks_eq_space hblank hfront))
      (beginsNowhereIn_of_notMem (by decide))
  have hmark := notMem_between_log_size hblank (c := 'l') (by decide) (by decide)
  rw [spaceLog, replace_eq_replaceFrom] at h
  exact begins_logOfSize.not_infix_replaceFrom (List.cons_ne_nil _ _) hmark hnew
    (fun before rest => ⟨(), takes_logOfSize_iff.mpr ⟨blanks, rfl, hblank⟩⟩) h

theorem spaceLog_eq_self (h : ∀ blanks : Text, (∀ c ∈ blanks, c.isBlank = true) →
    text "log" ++ (blanks ++ text "N") <:+: label → blanks = text " ") : spaceLog label = label := by
  have hinside : ∀ before, (logOfSize before).Inside := fun _ => inside_textThen _ _
  rw [spaceLog, replace_eq_replaceFrom]
  refine begins_logOfSize.replaceFrom_eq_self_of_fixed hinside fun x w s a hsplit hread => ?_
  obtain ⟨ws, rfl, hblank⟩ := takes_logOfSize_iff.mp hread
  rw [h ws hblank ⟨x, s, by rw [hsplit, List.append_assoc]⟩]
  rfl

/-! ### Superscripts -/

/-- A power with a caret, and the same with a superscript. -/
structure IsPower (power raised : String) : Prop where
  caret : ∃ d, text power = [CodePoint.ofChar 'N', CodePoint.ofChar '^', d] ∧ d ≠ 'N'
  superscript : ∃ d, text raised = [CodePoint.ofChar 'N', d] ∧ d ≠ '^' ∧ d ≠ 'N'

theorem isPower_square : IsPower "N^2" "N²" :=
  ⟨⟨CodePoint.ofChar '2', rfl, by decide⟩, ⟨CodePoint.ofChar '²', rfl, by decide⟩⟩

theorem isPower_cube : IsPower "N^3" "N³" :=
  ⟨⟨CodePoint.ofChar '3', rfl, by decide⟩, ⟨CodePoint.ofChar '³', rfl, by decide⟩⟩

theorem takes_caretPower_iff {power : String} :
    (caretPower power before).Takes w s u ↔ w = text power := by
  change (exactly (text power) >>= fun _ => pure ()).Takes w s u ↔ _
  rw [takes_bind_iff]
  constructor
  · rintro ⟨_, _, _, rfl, hpower, hpure⟩
    obtain ⟨rfl, -⟩ := takes_exactly_iff.mp hpower
    obtain ⟨-, rfl⟩ := takes_pure_iff.mp hpure
    exact List.append_nil _
  · rintro rfl
    exact ⟨_, text power, [], (List.append_nil _).symm, takes_exactly_iff.mpr ⟨rfl, rfl⟩,
      takes_pure_iff.mpr ⟨rfl, rfl⟩⟩

theorem inside_caretPower (power : String) (before : Option CodePoint) :
    (caretPower power before).Inside := (inside_exactly _).bind fun _ => inside_pure ()

namespace IsPower

variable {power raised power' raised' : String} (hp : IsPower power raised)
include hp

theorem begins_caretPower : (caretPower power).Begins (· = CodePoint.ofChar 'N') := by
  obtain ⟨d, hpower, -⟩ := hp.caret
  rw [caretPower, hpower]
  exact Begins.anywhere ((begins_exactly _ _).bind _)

theorem notMem_between : CodePoint.ofChar 'N' ∉ (text power).tail.dropLast := by
  obtain ⟨d, hpower, -⟩ := hp.caret
  rw [hpower]
  exact List.not_mem_cons_of_ne_of_not_mem (by decide) List.not_mem_nil

/-- No power with a caret begins inside of one with a superscript. -/
theorem beginsNowhereIn (hp' : IsPower power' raised') :
    BeginsNowhereIn (text power) (text raised') := by
  obtain ⟨c, hpower, -⟩ := hp.caret
  obtain ⟨d, hraised, hcaret, hsize⟩ := hp'.superscript
  rw [hpower, hraised]
  refine beginsNowhereIn_cons (fun rest hfront => ?_) (beginsNowhereIn_of_notMem ?_)
  · rw [List.cons_append, List.cons_append, List.cons_prefix_cons, List.cons_prefix_cons] at hfront
    exact hcaret hfront.2.1.symm
  · rw [List.mem_singleton]
    exact hsize.symm

theorem infix_of_infix_raise (hw : w ≠ []) (hmark : CodePoint.ofChar 'N' ∉ w.tail.dropLast)
    (hnew : BeginsNowhereIn w (text raised)) (h : w <:+: raise power raised label) :
    w <:+: label := by
  obtain ⟨d, hraised, -⟩ := hp.superscript
  rw [hraised] at hnew
  rw [raise, replace_eq_replaceFrom, hraised] at h
  exact hp.begins_caretPower.infix_of_infix_replaceFrom hw hmark hnew h

theorem text_ne_nil : text power ≠ [] := by
  obtain ⟨c, hpower, -⟩ := hp.caret
  rw [hpower]
  exact List.cons_ne_nil _ _

theorem not_infix_raise : ¬ text power <:+: raise power raised label := by
  have hnew := hp.beginsNowhereIn hp
  obtain ⟨d, hraised, -⟩ := hp.superscript
  rw [hraised] at hnew
  rw [raise, replace_eq_replaceFrom, hraised]
  exact hp.begins_caretPower.not_infix_replaceFrom hp.text_ne_nil hp.notMem_between hnew
    fun before rest => ⟨(), takes_caretPower_iff.mpr rfl⟩

theorem raise_eq_self (h : ¬ text power <:+: label) : raise power raised label = label := by
  rw [raise, replace_eq_replaceFrom]
  refine hp.begins_caretPower.replaceFrom_eq_self_of_fixed (inside_caretPower power) ?_
  intro x w s a hsplit hread
  obtain rfl := takes_caretPower_iff.mp hread
  exact absurd ⟨x, s, by rw [hsplit, List.append_assoc]⟩ h

end IsPower

/-- What begins with a code point of no superscript, and has no size between its ends, stands in the
label before its powers are written in another way. -/
theorem infix_of_infix_raise_raise {c : CodePoint} (hsquare : c ∉ text "N²") (hcube : c ∉ text "N³")
    (hmark : CodePoint.ofChar 'N' ∉ w.dropLast)
    (h : c :: w <:+: raise "N^3" "N³" (raise "N^2" "N²" label)) : c :: w <:+: label := by
  have hw : c :: w ≠ [] := List.cons_ne_nil c w
  apply isPower_square.infix_of_infix_raise hw hmark (beginsNowhereIn_of_notMem hsquare)
  exact isPower_cube.infix_of_infix_raise hw hmark (beginsNowhereIn_of_notMem hcube) h

/-! ### The normal form -/

theorem isNormal_normalize (label : Text) : IsNormal (normalize label) := by
  rw [normalize_eq_raise]
  constructor
  case noSmall =>
    intro h
    apply not_small_infix_capitalSize label
    apply infix_of_infix_spaceLog (List.cons_ne_nil _ _) (by decide)
      (beginsNowhereIn_of_notMem (by decide))
    exact infix_of_infix_raise_raise (by decide) (by decide) (by decide) h
  case noSquare =>
    intro h
    apply isPower_square.not_infix_raise
    exact isPower_cube.infix_of_infix_raise isPower_square.text_ne_nil
      isPower_square.notMem_between (isPower_square.beginsNowhereIn isPower_cube) h
  case noCube => exact isPower_cube.not_infix_raise
  case oneSpace =>
    intro blanks hblank h
    apply oneSpace_spaceLog hblank
    exact infix_of_infix_raise_raise (by decide) (by decide)
      (notMem_between_log_size hblank (by decide) (by decide)) h

theorem normalize_eq_self (h : IsNormal label) : normalize label = label := by
  rw [normalize_eq_raise, capitalSize_eq_self h.noSmall, spaceLog_eq_self fun _ => h.oneSpace,
    isPower_square.raise_eq_self h.noSquare, isPower_cube.raise_eq_self h.noCube]

theorem normalize_eq_self_iff : normalize label = label ↔ IsNormal label :=
  ⟨fun h => h ▸ isNormal_normalize label, normalize_eq_self⟩

instance (label : Text) : Decidable (IsNormal label) := decidable_of_iff _ normalize_eq_self_iff

/-- **One pass reaches the normal form.** The labels that it leaves as they are are those in normal
form, so a second pass changes nothing. -/
theorem normal_form_in_one_pass (label : Text) :
    IsNormal (normalize label) ∧ (normalize label = label ↔ IsNormal label) ∧
      normalize (normalize label) = normalize label :=
  ⟨isNormal_normalize label, normalize_eq_self_iff, normalize_eq_self (isNormal_normalize label)⟩

/-- A blank other than the space is a flaw behind `log`, and only there. -/
example : IsNormal (text "O(log N\tM)") ∧ ¬ IsNormal (text "O(log\tN)") := by decide

end BigO.Label
