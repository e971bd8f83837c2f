import BigO.Json.Encoding
import BigO.Json.Writer
import BigO.Proofs.Text.Encoding

/-! Reading what was written. A value without numbers, in which no object names a member twice, is
read back from its compact form as it was, whatever its texts hold: what a text could break is
escaped, and a surrogate that stands alone passes. -/

namespace BigO.Json

/-! ### Cursors -/

@[simp] theorem Cursor.advance_rest (c : Cursor) (n : Nat) :
    (c.advance n).rest = c.rest.drop n := rfl

theorem Cursor.skipBlanks_rest {c : Cursor} {x : CodePoint} {rest : Text} (hc : c.rest = x :: rest)
    (hx : Cursor.isBlank x = false) : c.skipBlanks.rest = x :: rest := by
  rw [Cursor.skipBlanks, Cursor.advance, hc, List.takeWhile_cons_of_neg (by rw [hx]; decide)]
  rfl

/-! ### Strings -/

/-- What stands for a code point in a string: itself, a letter behind a backslash, or its number. -/
inductive Escaped (c : CodePoint) : Text → Prop
  | itself (hquote : c ≠ .doubleQuote) (hbackslash : c ≠ CodePoint.ofChar '\\')
      (hcontrol : ¬ c.val < 0x20) : Escaped c [c]
  | letter (d : CodePoint) (hd : d ≠ CodePoint.ofChar 'u') (hletter : simpleEscape? d = some c) :
      Escaped c [CodePoint.ofChar '\\', d]
  | number (hcontrol : c.val < 0x20) : Escaped c (text "\\u" ++ Text.hexDigits 4 c.val)

theorem escaped_escape (c : CodePoint) : Escaped c (escape c) := by
  have hletters : ∀ s e : CodePoint, s.val = e.val → s = e := by
    rintro ⟨_, _⟩ ⟨_, _⟩ rfl
    rfl
  rw [escape]
  split_ifs with hquote hbackslash hline hreturn htab hback hfeed hcontrol
  · rw [hquote]
    exact .letter .doubleQuote (by decide) (by decide)
  · rw [hbackslash]
    exact .letter (CodePoint.ofChar '\\') (by decide) (by decide)
  · rw [hline]
    exact .letter (CodePoint.ofChar 'n') (by decide) (by decide)
  · rw [hreturn]
    exact .letter (CodePoint.ofChar 'r') (by decide) (by decide)
  · rw [htab]
    exact .letter (CodePoint.ofChar 't') (by decide) (by decide)
  · rw [hletters c (.ofNat 0x08) hback]
    exact .letter (CodePoint.ofChar 'b') (by decide) (by decide)
  · rw [hletters c (.ofNat 0x0C) hfeed]
    exact .letter (CodePoint.ofChar 'f') (by decide) (by decide)
  · exact .number hcontrol
  · exact .itself hquote hbackslash hcontrol

/-- A control character is its number in four digits. -/
theorem hexFour?_hexDigits {n : Nat} (h : n < 0x20) :
    ∃ h₁ h₂ h₃ h₄, Text.hexDigits 4 n = [h₁, h₂, h₃, h₄] ∧ Text.hexFour? h₁ h₂ h₃ h₄ = some n := by
  have hdigits : ∀ n < 0x20, Text.hexFour? (Text.hexDigit (n / 16 / 16 / 16 % 16))
      (Text.hexDigit (n / 16 / 16 % 16)) (Text.hexDigit (n / 16 % 16))
      (Text.hexDigit (n % 16)) = some n := by decide
  exact ⟨_, _, _, _, rfl, hdigits n h⟩

theorem addUnit_of_not_isLowSurrogate {unit : CodePoint} (h : unit.isLowSurrogate = false)
    (done : Text) (pairing : Bool) : addUnit done pairing unit = unit :: done := by
  simp only [addUnit, h, Bool.and_false]

/-- The reading of a string goes over what stands for a code point. -/
theorem stringFrom_escape (start : Nat) (done : Text) (pairing : Bool) (position : Nat)
    (c x : CodePoint) (rest : Text) :
    ∃ pairing' position',
      stringFrom start done pairing position (escape c ++ x :: rest) =
        stringFrom start (c :: done) pairing' position' (x :: rest) := by
  have hescaped := escaped_escape c
  generalize escape c = written at hescaped
  have hbackslash : CodePoint.ofChar '\\' ≠ .doubleQuote := by decide
  have hshown : ¬ (CodePoint.ofChar '\\').val < 0x20 := by decide
  -- Only the escape of a number looks at a pair that is begun, and no control character ends one.
  cases hescaped with
  | itself hquote hplain hcontrol =>
    refine ⟨false, position + 1, ?_⟩
    rw [List.singleton_append, stringFrom.eq_def]
    simp only [if_neg hquote, if_neg hcontrol, if_pos hplain]
  | letter d hd hletter =>
    refine ⟨false, position + 2, ?_⟩
    rw [List.cons_append, List.singleton_append, stringFrom.eq_def]
    simp only [if_neg hbackslash, if_neg hshown, ne_eq, not_true_eq_false, if_false, if_neg hd,
      hletter]
  | number hcontrol =>
    obtain ⟨h₁, h₂, h₃, h₄, hdigits, hvalue⟩ := hexFour?_hexDigits hcontrol
    have hunit : CodePoint.ofNat c.val = c := CodePoint.ofNat_eq rfl
    have hlow : c.isLowSurrogate = false := by
      rw [CodePoint.isLowSurrogate, Bool.and_eq_false_iff]
      exact Or.inl (decide_eq_false (by omega))
    refine ⟨c.isHighSurrogate, position + 6, ?_⟩
    rw [hdigits, show text "\\u" = [CodePoint.ofChar '\\', CodePoint.ofChar 'u'] from rfl]
    simp only [List.cons_append, List.nil_append, stringFrom, if_neg hbackslash, if_neg hshown,
      ne_eq, not_true_eq_false, if_false, if_true, hvalue, hunit,
      addUnit_of_not_isLowSurrogate hlow]

/-- The rest of a string is read up to the quote that closes it. -/
theorem stringFrom_flatMap_escape (start : Nat) (done : Text) (pairing : Bool) (position : Nat)
    (t rest : Text) :
    ∃ position', stringFrom start done pairing position
        (t.flatMap escape ++ .doubleQuote :: rest) =
      .ok (done.reverse ++ t, { rest, position := position' }) := by
  induction t generalizing done pairing position with
  | nil =>
    refine ⟨position + 1, ?_⟩
    rw [List.flatMap_nil, List.nil_append, List.append_nil]
    rw [stringFrom.eq_def]
    cases rest with
    | nil => exact if_pos rfl
    | cons d rest => exact if_pos rfl
  | cons c t ih =>
    obtain ⟨x, tail, htail⟩ : ∃ x tail,
        t.flatMap escape ++ CodePoint.doubleQuote :: rest = x :: tail := by
      cases t.flatMap escape with
      | nil => exact ⟨_, _, rfl⟩
      | cons x tail => exact ⟨_, _, rfl⟩
    obtain ⟨pairing', between, hescape⟩ :=
      stringFrom_escape start done pairing position c x tail
    obtain ⟨position', hread⟩ := ih (c :: done) pairing' between
    refine ⟨position', ?_⟩
    rw [List.flatMap_cons, List.append_assoc, htail, hescape, ← htail, hread,
      List.reverse_cons, List.append_assoc]
    rfl

theorem string?_quote {c : Cursor} {t rest : Text} (hc : c.rest = quote t ++ rest) :
    ∃ d : Cursor, string? c = .ok (t, d) ∧ d.rest = rest := by
  obtain ⟨position, hread⟩ :=
    stringFrom_flatMap_escape c.position [] false (c.position + 1) t rest
  refine ⟨{ rest, position }, ?_, rfl⟩
  rw [string?, hc, quote, List.append_assoc, List.append_assoc]
  exact hread

/-! ### Members -/

theorem lastWins_concat (members : List (Text × Json)) (name : Text) (value : Json) :
    lastWins (members ++ [(name, value)]) = setMember (lastWins members) name value := by
  rw [lastWins, List.foldl_append]
  rfl

theorem lastWins_eq_self {members : List (Text × Json)} (h : (members.map Prod.fst).Nodup) :
    lastWins members = members := by
  induction members using List.reverseRecOn with
  | nil => rfl
  | append_singleton members m ih =>
    rw [List.map_append, List.map_singleton, List.nodup_append] at h
    obtain ⟨hmembers, -, hnew⟩ := h
    have hother : members.any (·.1 = m.1) = false := by
      rw [List.any_eq_false]
      intro other hother
      have hne := hnew other.1 (List.mem_map_of_mem hother) m.1 (List.mem_singleton_self _)
      exact fun heq => hne (of_decide_eq_true heq)
    rw [lastWins_concat, ih hmembers, setMember, hother]
    rfl

/-! ### Values -/

section Openings

variable {steps room : Nat} {c : Cursor} {tail : Text}

theorem valueFrom_scalar {x : CodePoint} (hc : c.rest = x :: tail) (hquote : x ≠ .doubleQuote)
    (harray : x ≠ CodePoint.ofChar '[') (hobject : x ≠ .openBrace) :
    valueFrom (steps + 1) room c = scalar? c := by
  rw [valueFrom.eq_def]
  simp only [hc, if_neg hquote, if_neg harray, if_neg hobject]

theorem valueFrom_string {t : Text} {d : Cursor} (hc : c.rest = .doubleQuote :: tail)
    (hread : string? c = .ok (t, d)) : valueFrom (steps + 1) room c = .ok (.str t, d) := by
  rw [valueFrom.eq_def]
  simp only [hc, if_true, hread]

theorem valueFrom_array (hc : c.rest = CodePoint.ofChar '[' :: tail) :
    valueFrom (steps + 1) (room + 1) c =
      if (c.advance 1).skipBlanks.rest.head? = some (CodePoint.ofChar ']') then
        .ok (.arr [], (c.advance 1).skipBlanks.advance 1)
      else itemsFrom steps room [] (c.advance 1).skipBlanks := by
  have hquote : CodePoint.ofChar '[' ≠ .doubleQuote := by decide
  rw [valueFrom.eq_def]
  simp only [hc, if_neg hquote, if_true]

theorem valueFrom_object (hc : c.rest = .openBrace :: tail) :
    valueFrom (steps + 1) (room + 1) c =
      if (c.advance 1).skipBlanks.rest.head? = some .closeBrace then
        .ok (.obj [], (c.advance 1).skipBlanks.advance 1)
      else membersFrom steps room [] (c.advance 1).skipBlanks := by
  have hquote : CodePoint.openBrace ≠ .doubleQuote := by decide
  have harray : CodePoint.openBrace ≠ CodePoint.ofChar '[' := by decide
  rw [valueFrom.eq_def]
  simp only [hc, if_neg hquote, if_neg harray, if_true]

end Openings

/-- What is written of a value can be read back wherever it stands, if this many containers may be
opened around what is read. Two steps are enough for each code point, since a container and each of
its items take one more than what is inside and have a bracket or a comma of their own. -/
structure ReadsBack (room : Nat) (v : Json) : Prop where
  begins : ∃ x tail, write .compact v = x :: tail ∧ Cursor.isBlank x = false ∧
    x ≠ CodePoint.ofChar ']'
  reads : ∀ steps, 2 * (write .compact v).length ≤ steps → ∀ c : Cursor, ∀ rest,
    c.rest = write .compact v ++ rest →
      ∃ d : Cursor, valueFrom steps room c = .ok (v, d) ∧ d.rest = rest

variable {room : Nat} {items : List Json} {members : List (Text × Json)}

theorem readsBack_of_word {v : Json} {x : CodePoint} {tail : Text}
    (hwrite : write .compact v = x :: tail)
    (hx : Cursor.isBlank x = false ∧ x ≠ CodePoint.ofChar ']' ∧ x ≠ .doubleQuote ∧
      x ≠ CodePoint.ofChar '[' ∧ x ≠ .openBrace)
    (hword : ∀ rest, words.find? (fun w => w.1.isPrefixOf (x :: tail ++ rest)) =
      some (x :: tail, v)) : ReadsBack room v := by
  obtain ⟨hblank, hclose, hquote, harray, hobject⟩ := hx
  refine ⟨⟨x, tail, hwrite, hblank, hclose⟩, fun steps hsteps c rest hc => ?_⟩
  rw [hwrite] at hsteps hc
  cases steps with
  | zero => cases hsteps
  | succ steps =>
    refine ⟨c.advance (x :: tail).length, ?_, ?_⟩
    · rw [valueFrom_scalar hc hquote harray hobject, scalar?, hc, hword]
    · rw [Cursor.advance, hc, List.drop_left]

theorem readsBack_null : ReadsBack room .null :=
  readsBack_of_word rfl (by decide) fun _ => rfl

theorem readsBack_bool (b : Bool) : ReadsBack room (.bool b) := by
  cases b with
  | false => exact readsBack_of_word rfl (by decide) fun _ => rfl
  | true => exact readsBack_of_word rfl (by decide) fun _ => rfl

theorem readsBack_str (t : Text) : ReadsBack room (.str t) := by
  refine ⟨⟨.doubleQuote, t.flatMap escape ++ text "\"", rfl, by decide, by decide⟩, ?_⟩
  intro steps hsteps c rest hc
  cases steps with
  | zero => cases hsteps
  | succ steps =>
    obtain ⟨d, hread, hd⟩ := string?_quote hc
    exact ⟨d, valueFrom_string hc hread, hd⟩

theorem writeItems_cons_cons (item next : Json) (items : List Json) :
    writeItems .compact (item :: next :: items) =
      write .compact item ++ CodePoint.ofChar ',' :: writeItems .compact (next :: items) := by
  rw [writeItems, List.append_assoc]
  · rfl
  · exact List.cons_ne_nil _ _

theorem exists_writeItems_eq (hitems : ∀ item ∈ items, ReadsBack room item) (hne : items ≠ []) :
    ∃ x tail, writeItems .compact items = x :: tail ∧ Cursor.isBlank x = false ∧
      x ≠ CodePoint.ofChar ']' := by
  obtain ⟨item, items, rfl⟩ := List.exists_cons_of_ne_nil hne
  obtain ⟨x, tail, hwrite, hx⟩ := (hitems item List.mem_cons_self).begins
  cases items with
  | nil => exact ⟨x, tail, by rw [writeItems, hwrite], hx⟩
  | cons next items => exact ⟨x, _, by rw [writeItems_cons_cons, hwrite, List.cons_append], hx⟩

/-- The items of an array are read up to the bracket behind them. -/
theorem itemsFrom_writeItems (hitems : ∀ item ∈ items, ReadsBack room item) (hne : items ≠ [])
    (steps : Nat) (hsteps : 2 * (writeItems .compact items).length + 1 ≤ steps) (done : List Json)
    (c : Cursor) (rest : Text)
    (hc : c.rest = writeItems .compact items ++ CodePoint.ofChar ']' :: rest) :
    ∃ d : Cursor, itemsFrom steps room done c = .ok (.arr (done.reverse ++ items), d) ∧
      d.rest = rest := by
  induction items generalizing steps done c with
  | nil => exact absurd rfl hne
  | cons item items ih =>
    obtain ⟨hitem, hothers⟩ := List.forall_mem_cons.mp hitems
    obtain ⟨steps, rfl⟩ : ∃ before, steps = before + 1 := ⟨steps - 1, by omega⟩
    cases items with
    | nil =>
      rw [writeItems] at hsteps hc
      obtain ⟨d, hvalue, hd⟩ := hitem.reads steps (by omega) c _ hc
      have hskip := Cursor.skipBlanks_rest hd (by decide)
      refine ⟨d.skipBlanks.advance 1, ?_, by rw [Cursor.advance, hskip]; rfl⟩
      rw [itemsFrom, hvalue]
      simp only [hskip, if_true, List.reverse_cons]
    | cons next items =>
      rw [writeItems_cons_cons, List.append_assoc, List.cons_append] at hc
      rw [writeItems_cons_cons, List.length_append, List.length_cons] at hsteps
      obtain ⟨d, hvalue, hd⟩ := hitem.reads steps (by omega) c _ hc
      have hskip := Cursor.skipBlanks_rest hd (by decide)
      have hcomma : CodePoint.ofChar ',' ≠ CodePoint.ofChar ']' := by decide
      -- Behind the comma stands the next item, which begins with no blank.
      obtain ⟨x, tail, hx, hblank, -⟩ := exists_writeItems_eq hothers (List.cons_ne_nil _ _)
      have hnext : (d.skipBlanks.advance 1).skipBlanks.rest =
          writeItems .compact (next :: items) ++ CodePoint.ofChar ']' :: rest := by
        have hbehind : (d.skipBlanks.advance 1).rest =
            writeItems .compact (next :: items) ++ CodePoint.ofChar ']' :: rest := by
          rw [Cursor.advance, hskip]
          rfl
        rw [hx, List.cons_append] at hbehind ⊢
        exact Cursor.skipBlanks_rest hbehind hblank
      obtain ⟨e, hread, he⟩ := ih hothers (List.cons_ne_nil _ _) steps (by omega) (item :: done)
        _ hnext
      refine ⟨e, ?_, he⟩
      rw [itemsFrom, hvalue]
      simp only [hskip, if_neg hcomma, if_true, hread, List.reverse_cons, List.append_assoc,
        List.singleton_append]

theorem readsBack_arr (hitems : ∀ item ∈ items, ReadsBack room item) :
    ReadsBack (room + 1) (.arr items) := by
  refine ⟨⟨CodePoint.ofChar '[', writeItems .compact items ++ text "]", rfl, by decide, by decide⟩,
    fun steps hsteps c rest hc => ?_⟩
  have hwrite : write .compact (.arr items) =
      CodePoint.ofChar '[' :: (writeItems .compact items ++ [CodePoint.ofChar ']']) := rfl
  rw [hwrite, List.cons_append, List.append_assoc, List.singleton_append] at hc
  rw [hwrite, List.length_cons, List.length_append, List.length_singleton] at hsteps
  obtain ⟨steps, rfl⟩ : ∃ before, steps = before + 1 := ⟨steps - 1, by omega⟩
  have hinside : (c.advance 1).rest =
      writeItems .compact items ++ CodePoint.ofChar ']' :: rest := by
    rw [Cursor.advance_rest, hc]
    rfl
  rw [valueFrom_array hc]
  by_cases hne : items = []
  · rw [hne, writeItems, List.nil_append] at hinside
    have hskip := Cursor.skipBlanks_rest hinside (by decide)
    rw [hskip, List.head?_cons, if_pos rfl, hne]
    exact ⟨_, rfl, by rw [Cursor.advance_rest, hskip]; rfl⟩
  · obtain ⟨x, tail, hx, hblank, hclose⟩ := exists_writeItems_eq hitems hne
    rw [hx, List.cons_append] at hinside
    have hskip := Cursor.skipBlanks_rest hinside hblank
    rw [if_neg (by rw [hskip]; exact fun heq => hclose (Option.some.inj heq))]
    rw [← List.cons_append, ← hx] at hskip
    exact itemsFrom_writeItems hitems hne steps (by omega) [] _ rest hskip

theorem writeMembers_cons_cons (name : Text) (value : Json) (next : Text × Json)
    (members : List (Text × Json)) :
    writeMembers .compact ((name, value) :: next :: members) =
      quote name ++ CodePoint.ofChar ':' ::
        (write .compact value ++ CodePoint.ofChar ',' :: writeMembers .compact (next :: members)) :=
  by
  rw [writeMembers, List.append_assoc, List.append_assoc, List.append_assoc]
  · rfl
  · exact List.cons_ne_nil _ _

theorem exists_writeMembers_eq (hne : members ≠ []) :
    ∃ tail, writeMembers .compact members = .doubleQuote :: tail := by
  obtain ⟨⟨name, value⟩, members, rfl⟩ := List.exists_cons_of_ne_nil hne
  cases members with
  | nil => exact ⟨_, rfl⟩
  | cons next members => exact ⟨_, rfl⟩

/-- The reading of a member goes over its name and its value. -/
theorem member_reads {value : Json} (hvalue : ReadsBack room value) {steps : Nat}
    (hsteps : 2 * (write .compact value).length ≤ steps) {c : Cursor} {name tail : Text}
    {x : CodePoint} (hx : Cursor.isBlank x = false)
    (hc : c.rest = quote name ++ CodePoint.ofChar ':' :: (write .compact value ++ x :: tail)) :
    ∃ d e : Cursor, string? c = .ok (name, d) ∧
      d.skipBlanks.rest.head? = some (CodePoint.ofChar ':') ∧
      valueFrom steps room (d.skipBlanks.advance 1).skipBlanks = .ok (value, e) ∧
      e.skipBlanks.rest = x :: tail := by
  obtain ⟨d, hname, hd⟩ := string?_quote hc
  have hcolon := Cursor.skipBlanks_rest hd (by decide)
  obtain ⟨y, written, hwrite, hy, -⟩ := hvalue.begins
  have hbehind : (d.skipBlanks.advance 1).skipBlanks.rest = write .compact value ++ x :: tail := by
    rw [hwrite]
    exact Cursor.skipBlanks_rest (by rw [Cursor.advance_rest, hcolon, hwrite]; rfl) hy
  obtain ⟨e, hread, he⟩ := hvalue.reads steps hsteps _ _ hbehind
  exact ⟨d, e, hname, by rw [hcolon]; rfl, hread, Cursor.skipBlanks_rest he hx⟩

/-- The members of an object are read up to the brace behind them. -/
theorem membersFrom_writeMembers (hmembers : ∀ m ∈ members, ReadsBack room m.2)
    (hne : members ≠ []) (steps : Nat)
    (hsteps : 2 * (writeMembers .compact members).length + 1 ≤ steps)
    (done : List (Text × Json)) (c : Cursor) (rest : Text)
    (hc : c.rest = writeMembers .compact members ++ .closeBrace :: rest) :
    ∃ d : Cursor, membersFrom steps room done c =
        .ok (.obj (lastWins (done.reverse ++ members)), d) ∧ d.rest = rest := by
  induction members generalizing steps done c with
  | nil => exact absurd rfl hne
  | cons m members ih =>
    obtain ⟨name, value⟩ := m
    have hvalue : ReadsBack room value := hmembers _ List.mem_cons_self
    have hothers := (List.forall_mem_cons.mp hmembers).2
    obtain ⟨steps, rfl⟩ : ∃ before, steps = before + 1 := ⟨steps - 1, by omega⟩
    have hquote : c.rest.head? = some .doubleQuote := by
      obtain ⟨tail, htail⟩ := exists_writeMembers_eq hne
      rw [hc, htail]
      rfl
    cases members with
    | nil =>
      have hwrite : writeMembers .compact [(name, value)] =
          quote name ++ CodePoint.ofChar ':' :: write .compact value := by
        rw [writeMembers, List.append_assoc]
        rfl
      rw [hwrite, List.append_assoc, List.cons_append] at hc
      rw [hwrite, List.length_append, List.length_cons] at hsteps
      have hroom : 2 * (write .compact value).length ≤ steps := by omega
      obtain ⟨d, e, hname, hcolon, hread, he⟩ := member_reads hvalue hroom (by decide) hc
      refine ⟨e.skipBlanks.advance 1, ?_, by rw [Cursor.advance_rest, he]; rfl⟩
      rw [membersFrom, if_pos hquote, hname]
      simp only [hcolon, if_true, hread, he, List.reverse_cons]
    | cons next members =>
      rw [writeMembers_cons_cons, List.append_assoc, List.cons_append, List.append_assoc,
        List.cons_append] at hc
      rw [writeMembers_cons_cons, List.length_append, List.length_cons, List.length_append,
        List.length_cons] at hsteps
      have hroom : 2 * (write .compact value).length ≤ steps := by omega
      obtain ⟨d, e, hname, hcolon, hread, he⟩ := member_reads hvalue hroom (by decide) hc
      have hcomma : CodePoint.ofChar ',' ≠ .closeBrace := by decide
      have hnext : (e.skipBlanks.advance 1).skipBlanks.rest =
          writeMembers .compact (next :: members) ++ .closeBrace :: rest := by
        obtain ⟨tail, htail⟩ := exists_writeMembers_eq (List.cons_ne_nil next members)
        rw [htail]
        exact Cursor.skipBlanks_rest (by rw [Cursor.advance_rest, he, htail]; rfl) (by decide)
      obtain ⟨f, hrest, hf⟩ := ih hothers (List.cons_ne_nil _ _) steps (by omega)
        ((name, value) :: done) _ hnext
      refine ⟨f, ?_, hf⟩
      rw [membersFrom, if_pos hquote, hname]
      simp only [hcolon, if_true, hread, he, if_neg hcomma, hrest, List.reverse_cons,
        List.append_assoc, List.singleton_append]

theorem readsBack_obj (hnames : (members.map Prod.fst).Nodup)
    (hmembers : ∀ m ∈ members, ReadsBack room m.2) : ReadsBack (room + 1) (.obj members) := by
  refine ⟨⟨.openBrace, writeMembers .compact members ++ text "\x7d", rfl, by decide, by decide⟩,
    fun steps hsteps c rest hc => ?_⟩
  have hwrite : write .compact (.obj members) =
      .openBrace :: (writeMembers .compact members ++ [.closeBrace]) := rfl
  rw [hwrite, List.cons_append, List.append_assoc, List.singleton_append] at hc
  rw [hwrite, List.length_cons, List.length_append, List.length_singleton] at hsteps
  obtain ⟨steps, rfl⟩ : ∃ before, steps = before + 1 := ⟨steps - 1, by omega⟩
  have hinside : (c.advance 1).rest = writeMembers .compact members ++ .closeBrace :: rest := by
    rw [Cursor.advance_rest, hc]
    rfl
  rw [valueFrom_object hc]
  by_cases hne : members = []
  · rw [hne, writeMembers, List.nil_append] at hinside
    have hskip := Cursor.skipBlanks_rest hinside (by decide)
    rw [hskip, List.head?_cons, if_pos rfl, hne]
    exact ⟨_, rfl, by rw [Cursor.advance_rest, hskip]; rfl⟩
  · obtain ⟨tail, htail⟩ := exists_writeMembers_eq hne
    rw [htail, List.cons_append] at hinside
    have hskip := Cursor.skipBlanks_rest hinside (by decide)
    have hquote : CodePoint.doubleQuote ≠ .closeBrace := by decide
    rw [if_neg (by rw [hskip]; exact fun heq => hquote (Option.some.inj heq))]
    rw [← List.cons_append, ← htail] at hskip
    obtain ⟨d, hread, hd⟩ :=
      membersFrom_writeMembers hmembers hne steps (by omega) [] _ rest hskip
    rw [List.reverse_nil, List.nil_append, lastWins_eq_self hnames] at hread
    exact ⟨d, hread, hd⟩

/-- Values without numbers in which no object names a member twice, nested no deeper than this. -/
inductive IsTextual : (room : Nat) → Json → Prop
  | null {room : Nat} : IsTextual room .null
  | bool {room : Nat} (b : Bool) : IsTextual room (.bool b)
  | str {room : Nat} (t : Text) : IsTextual room (.str t)
  | arr {room : Nat} {items : List Json} (hitems : ∀ item ∈ items, IsTextual room item) :
      IsTextual (room + 1) (.arr items)
  | obj {room : Nat} {members : List (Text × Json)} (hnames : (members.map Prod.fst).Nodup)
      (hmembers : ∀ m ∈ members, IsTextual room m.2) : IsTextual (room + 1) (.obj members)

theorem IsTextual.readsBack {v : Json} (h : IsTextual room v) : ReadsBack room v := by
  induction h with
  | null => exact readsBack_null
  | bool b => exact readsBack_bool b
  | str t => exact readsBack_str t
  | arr _ ih => exact readsBack_arr ih
  | obj hnames _ ih => exact readsBack_obj hnames ih

/-! ### Whole texts -/

/-- What is written of a value is read as the value. -/
theorem readWhole_write {v : Json} (h : IsTextual depthLimit v) :
    readWhole (write .compact v) = .ok v := by
  obtain ⟨⟨x, tail, hwrite, hblank, -⟩, hreads⟩ := h.readsBack
  obtain ⟨d, hread, hd⟩ := hreads (2 * (write .compact v).length + 2) (by omega)
    (Cursor.skipBlanks { rest := write .compact v, position := 0 }) []
    (by rw [Cursor.skipBlanks_rest hwrite hblank, hwrite, List.append_nil])
  have hend : d.skipBlanks.rest = [] := by
    rw [Cursor.skipBlanks, Cursor.advance_rest, hd]
    rfl
  rw [readWhole]
  simp only [hread, hend, List.isEmpty_nil, if_true]

/-- Bytes that begin with two of ASCII, of which neither is NUL, are taken for UTF-8. -/
theorem detectEncoding_of_ascii {a b : UInt8} (ha : 0 < a.toNat ∧ a.toNat < 0x80)
    (hb : b ≠ 0) (rest : List UInt8) : detectEncoding (a :: b :: rest) = (.utf8, 0) := by
  have hzero : a ≠ 0 := by
    rintro rfl
    exact absurd ha.1 (by decide)
  have hmark : orderMarks.find? (fun m => m.1.isPrefixOf (a :: b :: rest)) = none := by
    rw [List.find?_eq_none]
    have hfirst : ∀ m ∈ orderMarks, m.1.head?.any fun lead => lead = 0 ∨ 0x80 ≤ lead.toNat := by
      decide
    rintro ⟨mark, encoding⟩ hm hprefix
    obtain ⟨tail, htail⟩ := List.isPrefixOf_iff_prefix.mp hprefix
    have hlead := hfirst _ hm
    cases mark with
    | nil => cases hlead
    | cons lead mark =>
      obtain ⟨rfl, -⟩ := List.cons.inj htail
      rcases of_decide_eq_true hlead with hlow | hhigh
      · exact hzero hlow
      · omega
  rw [detectEncoding, hmark]
  cases rest with
  | nil => simp only [encodingByZeros, if_neg hzero, if_neg hb]
  | cons c rest =>
    cases rest with
    | nil => rfl
    | cons d rest => simp only [encodingByZeros, if_neg hzero, if_neg hb]

/-- The bytes of a text that begins with two characters of ASCII, of which neither is NUL, are read
as that text. -/
theorem decode_toUtf8 {c d : CodePoint} (hc : 0 < c.val ∧ c.val < 0x80)
    (hd : 0 < d.val ∧ d.val < 0x80) (t : Text) :
    decode (Text.toUtf8 (c :: d :: t)) = .ok (c :: d :: t) := by
  have hbyte : ∀ e : CodePoint, e.val < 0x80 → (UInt8.ofNat e.val).toNat = e.val := fun e he =>
    Text.toNat_ofNat_of_lt (by omega)
  have hbytes : Text.toUtf8 (c :: d :: t) =
      UInt8.ofNat c.val :: UInt8.ofNat d.val :: Text.toUtf8 t := by
    simp only [Text.toUtf8, List.flatMap_cons, Text.utf8Bytes, if_pos hc.2, if_pos hd.2]
    rfl
  have hencoding : detectEncoding (Text.toUtf8 (c :: d :: t)) = (.utf8, 0) := by
    rw [hbytes]
    apply detectEncoding_of_ascii
    · rw [hbyte c hc.2]
      exact hc
    · intro hzero
      have hval := hbyte d hd.2
      rw [hzero] at hval
      exact absurd hval.symm hd.1.ne'
  rw [decode, hencoding]
  simp only [List.drop_zero, Encoding.unit, Text.faultFrom_toUtf8, Text.lossy_units_toUtf8]

/-- The bytes of what is written of an object are read as the object. -/
theorem readBytes_write_obj {members : List (Text × Json)}
    (h : IsTextual depthLimit (.obj members)) :
    readBytes (Text.toUtf8 (write .compact (.obj members))) = .ok (.obj members) := by
  obtain ⟨d, tail, hd, hwrite⟩ : ∃ d tail, (0 < d.val ∧ d.val < 0x80) ∧
      write .compact (.obj members) = .openBrace :: d :: tail := by
    by_cases hne : members = []
    · exact ⟨.closeBrace, [], by decide, by rw [hne]; rfl⟩
    · obtain ⟨tail, htail⟩ := exists_writeMembers_eq hne
      exact ⟨.doubleQuote, tail ++ text "\x7d", by decide, by rw [write, htail]; rfl⟩
  rw [readBytes, hwrite, decode_toUtf8 (by decide) hd, ← hwrite]
  simp only [readWhole_write h, Except.mapError]

end BigO.Json
