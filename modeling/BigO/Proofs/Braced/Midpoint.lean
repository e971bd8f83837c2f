import BigO.Proofs.Braced.Site
import BigO.Proofs.Text.Search

/-! The middle of a range in braced code. A line is searched for the first call of the floor
function only, and for a halving only behind that: a halving behind a later call stands behind the
first one as well. An assignment to `mid` is told by its equals sign, and what is taken for one by
mistake is told here too: an arrow begins with the same sign. -/

namespace BigO.Braced

open Pattern Reader

variable {before : Option CodePoint} {w s t : Text} {u : Unit}

/-! ### Floored halves -/

/-- A call of the floor function up to its opening parenthesis. -/
def IsFloorCall (w : Text) : Prop :=
  ∃ ws, w = text "Math.floor" ++ (ws ++ [CodePoint.ofChar '(']) ∧ AllBlank ws

/-- A division by two up to the closing parenthesis behind it. -/
def IsHalving (w : Text) : Prop :=
  ∃ ws ws', w = CodePoint.ofChar '/' ::
    (ws ++ CodePoint.ofChar '2' :: (ws' ++ [CodePoint.ofChar ')'])) ∧ AllBlank ws ∧ AllBlank ws'

theorem takes_floorCall_iff : (floorCall before).Takes w s u ↔ IsFloorCall w :=
  takes_textThen_iff rfl

theorem takes_halved_iff : (halved before).Takes w s u ↔ IsHalving w := by
  change (char '/' >>= fun _ => blanks >>= fun _ => char '2' >>= fun _ => blanks >>= fun _ =>
    char ')' >>= fun _ => pure ()).Takes w s u ↔ _
  constructor
  · intro hread
    obtain ⟨_, _, w₁, rfl, hslash, hread⟩ := takes_bind_iff.mp hread
    obtain ⟨_, ws, w₂, rfl, hblanks, hread⟩ := takes_bind_iff.mp hread
    obtain ⟨_, _, w₃, rfl, htwo, hread⟩ := takes_bind_iff.mp hread
    obtain ⟨_, ws', w₄, rfl, hblanks', hread⟩ := takes_bind_iff.mp hread
    obtain ⟨_, _, w₅, rfl, hparen, hpure⟩ := takes_bind_iff.mp hread
    obtain ⟨rfl, -⟩ := takes_char_iff.mp hslash
    obtain ⟨rfl, -⟩ := takes_char_iff.mp htwo
    obtain ⟨rfl, -⟩ := takes_char_iff.mp hparen
    obtain ⟨-, rfl⟩ := takes_pure_iff.mp hpure
    exact ⟨ws, ws', rfl, (takes_blanks_iff.mp hblanks).2.1, (takes_blanks_iff.mp hblanks').2.1⟩
  · rintro ⟨ws, ws', rfl, hblank, hblank'⟩
    refine takes_bind_iff.mpr ⟨_, [CodePoint.ofChar '/'], _, rfl, takes_char_iff.mpr ⟨rfl, rfl⟩, ?_⟩
    refine takes_bind_iff.mpr ⟨ws, ws, _, rfl, takes_blanks_iff.mpr ⟨rfl, hblank, ?_⟩, ?_⟩
    · rintro c ⟨⟩
      decide
    refine takes_bind_iff.mpr ⟨_, [CodePoint.ofChar '2'], _, rfl, takes_char_iff.mpr ⟨rfl, rfl⟩, ?_⟩
    refine takes_bind_iff.mpr ⟨ws', ws', _, rfl, takes_blanks_iff.mpr ⟨rfl, hblank', ?_⟩, ?_⟩
    · rintro c ⟨⟩
      decide
    · exact takes_bind_iff.mpr ⟨_, [CodePoint.ofChar ')'], [], rfl, takes_char_iff.mpr ⟨rfl, rfl⟩,
        takes_pure_iff.mpr ⟨rfl, rfl⟩⟩

theorem AllBlank.notMem {ws : Text} (h : AllBlank ws) {x : Char}
    (hx : CodePoint.isBlank x = false) : CodePoint.ofChar x ∉ ws :=
  fun hmem => ne_of_isBlank hx (h _ hmem) rfl

theorem apart_floorCall : floorCall.Apart := by
  have hbegins : floorCall.Begins (· = CodePoint.ofChar 'M') :=
    Begins.anywhere ((begins_exactly _ _).bind _)
  refine hbegins.apart (fun _ => inside_textThen _ _) ?_
  intro before w s u h
  obtain ⟨ws, rfl, hblank⟩ := takes_floorCall_iff.mp h
  change CodePoint.ofChar 'M' ∉ text "ath.floor" ++ (ws ++ [CodePoint.ofChar '('])
  rw [List.mem_append, List.mem_append, not_or, not_or]
  exact ⟨by decide, AllBlank.notMem hblank (by decide), by decide⟩

theorem apart_halved : halved.Apart := by
  have hbegins : halved.Begins (· = CodePoint.ofChar '/') :=
    Begins.anywhere ((begins_char '/').bind _)
  refine hbegins.apart (fun _ => ?_) ?_
  · exact (inside_one _).bind fun _ => (inside_run _).bind fun _ => (inside_one _).bind fun _ =>
      (inside_run _).bind fun _ => (inside_one _).bind fun _ => inside_pure ()
  · intro before w s u h
    obtain ⟨ws, ws', rfl, hblank, hblank'⟩ := takes_halved_iff.mp h
    rw [List.tail_cons, List.mem_append, List.mem_cons, List.mem_append, not_or, not_or, not_or]
    exact ⟨AllBlank.notMem hblank (by decide), by decide, AllBlank.notMem hblank' (by decide),
      by decide⟩

theorem floorsHalf_iff {line : Text} :
    floorsHalf line = true ↔ ∃ front f between h back,
      line = front ++ (f ++ (between ++ (h ++ back))) ∧ IsFloorCall f ∧ IsHalving h := by
  have hsearch : floorsHalf line = true ↔
      floorCall.ReadsThen (halved.ReadsThen fun _ _ => True) none line := by
    rw [← apart_floorCall.any_find?_iff apart_halved, floorsHalf]
    cases floorCall.find? none line <;> rfl
  rw [hsearch]
  constructor
  · rintro ⟨front, f, _, _, rfl, hfloor, between, h, back, _, rfl, hhalf, -⟩
    exact ⟨front, f, between, h, back, rfl, takes_floorCall_iff.mp hfloor,
      takes_halved_iff.mp hhalf⟩
  · rintro ⟨front, f, between, h, back, rfl, hfloor, hhalf⟩
    exact ⟨front, f, _, (), rfl, takes_floorCall_iff.mpr hfloor, between, h, back, (), rfl,
      takes_halved_iff.mpr hhalf, trivial⟩

/-- **Floored halves**: where no other sign of a middle is found, a middle is found exactly when
on some line any call of the floor function has any halving behind it. -/
theorem hasMidpoint_iff_floored {masked : Text} (hshift : shiftByOne.occursIn masked = false)
    (hmid : midAssignment.occursIn masked = false) :
    hasMidpoint masked = true ↔ ∃ line ∈ masked.lines, ∃ front f between h back,
      line = front ++ (f ++ (between ++ (h ++ back))) ∧ IsFloorCall f ∧ IsHalving h := by
  rw [hasMidpoint, hshift, hmid, Bool.false_or, Bool.false_or, List.any_eq_true]
  simp only [floorsHalf_iff]

/-- The halving on the first line stands before the call, the one on the second line behind two
of them. -/
theorem hasMidpoint_iff_floored_at_second_call :
    let masked := text "h = (a / 2) - Math.floor(b);\nm = Math.floor(a) + Math.floor ((a + b) / 2 );"
    shiftByOne.occursIn masked = false ∧ midAssignment.occursIn masked = false ∧
      ∃ line ∈ masked.lines, ∃ front f between h back,
        line = front ++ (f ++ (between ++ (h ++ back))) ∧ IsFloorCall f ∧ IsHalving h := by
  intro masked
  have hshift : shiftByOne.occursIn masked = false := by decide
  have hmid : midAssignment.occursIn masked = false := by decide
  exact ⟨hshift, hmid, (hasMidpoint_iff_floored hshift hmid).mp (by decide)⟩

/-! ### Assignments -/

/-- In front of `rest` stands the name `mid`, neither a part of a longer name nor a member of
something, and blanks. -/
def MidBefore (t rest : Text) : Prop :=
  ∃ front ws, t = front ++ (text "mid" ++ (ws ++ rest)) ∧ AllBlank ws ∧
    ∀ c ∈ front.getLast?, isNamePart c = false ∧ c ≠ CodePoint.ofChar '.'

/-- A value is assigned to `mid`. -/
def AssignsMid (t : Text) : Prop :=
  ∃ back, MidBefore t (CodePoint.ofChar '=' :: back) ∧
    ∀ c ∈ back.head?, c ≠ CodePoint.ofChar '=' ∧ c ≠ CodePoint.ofChar '>'

/-- The argument of an arrow function is `mid`. -/
def ArrowBehindMid (t : Text) : Prop :=
  ∃ back, MidBefore t (CodePoint.ofChar '=' :: CodePoint.ofChar '>' :: back)

theorem takes_midAssignment_iff :
    (midAssignment before).Takes w s u ↔
      (∀ c ∈ before, isNamePart c = false ∧ c ≠ CodePoint.ofChar '.') ∧
      ∃ ws, w = text "mid" ++ (ws ++ [CodePoint.ofChar '=']) ∧ AllBlank ws ∧
        ∀ c ∈ s.head?, c ≠ CodePoint.ofChar '=' := by
  have hstart : (!before.any fun c => isNamePart c || c = '.') = true ↔
      ∀ c ∈ before, isNamePart c = false ∧ c ≠ CodePoint.ofChar '.' := by
    cases before <;> simp
  rw [Takes, midAssignment, after_eq_some, hstart]
  apply and_congr_right
  intro _
  change (exactly (text "mid") >>= fun _ => blanks >>= fun _ => char '=' >>= fun _ =>
    notBefore (· = '=')).Takes w s u ↔ _
  constructor
  · intro hread
    obtain ⟨_, _, w₁, rfl, hname, hread⟩ := takes_bind_iff.mp hread
    obtain ⟨_, ws, w₂, rfl, hblanks, hread⟩ := takes_bind_iff.mp hread
    obtain ⟨_, _, w₃, rfl, hequals, hend⟩ := takes_bind_iff.mp hread
    obtain ⟨rfl, -⟩ := takes_exactly_iff.mp hname
    obtain ⟨rfl, -⟩ := takes_char_iff.mp hequals
    obtain ⟨rfl, hbehind⟩ := takes_notBefore_iff.mp hend
    exact ⟨ws, rfl, (takes_blanks_iff.mp hblanks).2.1,
      fun c hc => of_decide_eq_false (hbehind c hc)⟩
  · rintro ⟨ws, rfl, hblank, hbehind⟩
    refine takes_bind_iff.mpr ⟨_, text "mid", _, rfl, takes_exactly_iff.mpr ⟨rfl, rfl⟩, ?_⟩
    refine takes_bind_iff.mpr ⟨ws, ws, _, rfl, takes_blanks_iff.mpr ⟨rfl, hblank, ?_⟩, ?_⟩
    · rintro c ⟨⟩
      decide
    · exact takes_bind_iff.mpr ⟨_, [CodePoint.ofChar '='], [], rfl, takes_char_iff.mpr ⟨rfl, rfl⟩,
        takes_notBefore_iff.mpr ⟨rfl, fun c hc => decide_eq_false (hbehind c hc)⟩⟩

theorem apart_midAssignment : midAssignment.Apart := by
  have hbegins : midAssignment.Begins (· = CodePoint.ofChar 'm') :=
    Begins.after ((begins_exactly _ _).bind _) _
  refine hbegins.apart (fun _ s u n h => ?_) ?_
  · have hinside : (exactly (text "mid") >>= fun _ => blanks >>= fun _ => char '=' >>= fun _ =>
        notBefore (· = '=')).Inside :=
      (inside_exactly _).bind fun _ => (inside_run _).bind fun _ => (inside_one _).bind fun _ =>
        inside_notBefore _
    exact hinside s u n (after_eq_some.mp h).2
  · intro before w s u h
    obtain ⟨-, ws, rfl, hblank, -⟩ := takes_midAssignment_iff.mp h
    change CodePoint.ofChar 'm' ∉ text "id" ++ (ws ++ [CodePoint.ofChar '='])
    rw [List.mem_append, List.mem_append, not_or, not_or]
    exact ⟨by decide, AllBlank.notMem hblank (by decide), by decide⟩

theorem occursIn_midAssignment_iff :
    midAssignment.occursIn t = true ↔ ∃ back, MidBefore t (CodePoint.ofChar '=' :: back) ∧
      ∀ c ∈ back.head?, c ≠ CodePoint.ofChar '=' := by
  rw [occursIn, apart_midAssignment.isSome_find?_iff]
  constructor
  · rintro ⟨front, w, back, u, rfl, hread, -⟩
    obtain ⟨hfront, ws, rfl, hblank, hback⟩ := takes_midAssignment_iff.mp hread
    rw [lastOf, Option.or_none] at hfront
    refine ⟨back, ⟨front, ws, ?_, hblank, hfront⟩, hback⟩
    simp only [List.append_assoc, List.singleton_append]
  · rintro ⟨back, ⟨front, ws, rfl, hblank, hfront⟩, hback⟩
    refine ⟨front, text "mid" ++ (ws ++ [CodePoint.ofChar '=']), back, (), ?_,
      takes_midAssignment_iff.mpr ⟨?_, ws, rfl, hblank, hback⟩, trivial⟩
    · simp only [List.append_assoc, List.singleton_append]
    · rwa [lastOf, Option.or_none]

theorem infix_of_occursIn_shiftByOne (h : shiftByOne.occursIn t = true) : text ">>" <:+: t := by
  obtain ⟨front, v, rfl, hread⟩ := (steady_shiftByOne.begins.occursIn_iff t).mp h
  obtain ⟨⟨u, n⟩, hread⟩ := Option.isSome_iff_exists.mp hread
  obtain ⟨_, _, _, hsigns, -⟩ := bind_eq_some.mp hread
  exact (exactly_eq_some.mp hsigns).1.isInfix.trans (List.suffix_append front v).isInfix

theorem infix_of_floorsHalf {line : Text} (h : floorsHalf line = true) :
    text "Math.floor" <:+: line := by
  obtain ⟨front, _, between, half, back, rfl, ⟨ws, rfl, -⟩, -⟩ := floorsHalf_iff.mp h
  exact ⟨front, ws ++ [CodePoint.ofChar '('] ++ (between ++ (half ++ back)), by simp⟩

/-- Without shifts, calls of the floor function and assignments to `mid`, all that is taken for a
middle is an arrow behind `mid`. -/
theorem midpoint_invented_iff {masked : Text} (hshift : ¬ text ">>" <:+: masked)
    (hfloor : ¬ text "Math.floor" <:+: masked) (hmid : ¬ AssignsMid masked) :
    hasMidpoint masked = true ↔ ArrowBehindMid masked := by
  have hshifts : shiftByOne.occursIn masked = false :=
    Bool.eq_false_iff.mpr (mt infix_of_occursIn_shiftByOne hshift)
  have hfloors : masked.lines.any floorsHalf = false := by
    rw [List.any_eq_false]
    intro line hline hfound
    exact hfloor ((infix_of_floorsHalf hfound).trans (Text.infix_of_mem_lines hline))
  rw [hasMidpoint, hshifts, hfloors, Bool.false_or, Bool.or_false, occursIn_midAssignment_iff]
  constructor
  · rintro ⟨back, hbefore, hback⟩
    -- an equals sign that assigns nothing has one of two signs behind it, and one is excluded
    cases back with
    | nil => exact absurd ⟨[], hbefore, fun _ hc => by cases hc⟩ hmid
    | cons d back =>
        by_cases hd : d = CodePoint.ofChar '>'
        · subst hd
          exact ⟨back, hbefore⟩
        · refine absurd ⟨d :: back, hbefore, ?_⟩ hmid
          rintro c ⟨⟩
          exact ⟨hback _ rfl, hd⟩
  · rintro ⟨back, hbefore⟩
    refine ⟨_, hbefore, ?_⟩
    rintro c ⟨⟩
    decide

/-- In a text whose equals signs all begin comparisons or arrows nothing is assigned. -/
theorem AssignsMid.exists_equals (h : AssignsMid t) :
    ∃ v ∈ t.tails, v.head? = some (CodePoint.ofChar '=') ∧
      ∀ c ∈ v.tail.head?, c ≠ CodePoint.ofChar '=' ∧ c ≠ CodePoint.ofChar '>' := by
  obtain ⟨back, ⟨front, ws, rfl, -⟩, hback⟩ := h
  refine ⟨CodePoint.ofChar '=' :: back, List.mem_tails _ _ |>.mpr ?_, rfl, hback⟩
  exact ⟨front ++ (text "mid" ++ ws), by simp⟩

theorem midpoint_invented_at_callback :
    let masked := text "while (a) \x7b\n  b(mid => mid);\n\x7d"
    ¬ text ">>" <:+: masked ∧ ¬ text "Math.floor" <:+: masked ∧ ¬ AssignsMid masked ∧
      ArrowBehindMid masked := by
  intro masked
  have hmid : ¬ AssignsMid masked := fun h => absurd h.exists_equals (by decide)
  exact ⟨by decide, by decide, hmid,
    (midpoint_invented_iff (by decide) (by decide) hmid).mp (by decide)⟩

/-- An arrow function makes a search by halves of a loop. -/
theorem midpoint_invented :
    ¬ ∀ masked, ¬ text ">>" <:+: masked → ¬ text "Math.floor" <:+: masked →
      ¬ AssignsMid masked → hasMidpoint masked = false := by
  intro hnever
  have hinvented := hnever (text "while (a) \x7b\n  b(mid => mid);\n\x7d") (by decide) (by decide)
    fun h => absurd h.exists_equals (by decide)
  exact absurd hinvented (by decide)

end BigO.Braced
