import BigO.Proofs.Text.Word
import BigO.Proofs.Source.LineComment

/-! Padding. A text is padded by carriage returns in front of its line feeds and by some blanks and
closing braces behind its end. Nothing that a pattern looks for begins with these, and between the
parts of what it looks for a pattern passes over blanks; so a pattern reads in the padded text what
it reads in the text itself. Readers are shown to go along with the padding one by one, and the scan
follows. -/

namespace BigO

open Source

/-- Blanks and closing braces, with which nothing begins that a pattern looks for. -/
def CodePoint.isFiller (c : CodePoint) : Bool := c.isBlank || decide (c = closeBrace)

theorem CodePoint.isFiller_lineFeed : (ofChar '\n').isFiller = true := by decide

theorem CodePoint.isFiller_return : (ofChar '\r').isFiller = true := by decide

theorem CodePoint.isFiller_ne {x : Char} (hx : (ofChar x).isFiller = false) {c : CodePoint}
    (hc : c.isFiller = true) : decide (c = ofChar x) = false := by
  refine decide_eq_false ?_
  rintro rfl
  rw [hx] at hc
  cases hc

theorem CodePoint.isWord_of_isFiller {c : CodePoint} (hc : c.isFiller = true) :
    c.isWord = false := by
  rw [isFiller, Bool.or_eq_true, decide_eq_true_eq] at hc
  rcases hc with hc | rfl
  · exact isWord_of_isBlank hc
  · decide

theorem CodePoint.isFiller_of_isWord {c : CodePoint} (hc : c.isWord = true) :
    c.isFiller = false := by
  rw [Bool.eq_false_iff]
  intro hfiller
  rw [isWord_of_isFiller hfiller] at hc
  cases hc

/-- No filler is in a class of word characters. -/
theorem CodePoint.isFiller_notIn {p : CodePoint → Bool} (hp : ∀ c, p c = true → c.isWord = true)
    {c : CodePoint} (hc : c.isFiller = true) : p c = false := by
  rw [Bool.eq_false_iff]
  intro h
  rw [isFiller_of_isWord (hp c h)] at hc
  cases hc

/-- The text is not empty and holds no filler. -/
abbrev Text.IsSolid (w : Text) : Prop := w ≠ [] ∧ ∀ c ∈ w, c.isFiller = false

/-- The second text is the first one with carriage returns in front of some of its line feeds and
with fillers behind its end, at most so many. -/
inductive Padded (slack : Nat) : Text → Text → Prop
  | behind {s : Text} (hs : ∀ c ∈ s, c.isFiller = true) (hlen : s.length ≤ slack) :
      Padded slack [] s
  | cons (c : CodePoint) {t t' : Text} (h : Padded slack t t') : Padded slack (c :: t) (c :: t')
  | returned {t t' : Text} (h : Padded slack t t') :
      Padded slack (CodePoint.ofChar '\n' :: t)
        (CodePoint.ofChar '\r' :: CodePoint.ofChar '\n' :: t')

variable {k : Nat}

theorem Padded.append_filler (t : Text) {s : Text} (hs : ∀ c ∈ s, c.isFiller = true) :
    Padded s.length t (t ++ s) := by
  induction t with
  | nil => exact .behind hs (Nat.le_refl _)
  | cons c t ih => exact .cons c ih

theorem Padded.append_left (w : Text) {t t' : Text} (h : Padded k t t') :
    Padded k (w ++ t) (w ++ t') := by
  induction w with
  | nil => exact h
  | cons c w ih => exact .cons c ih

/-! ### Places -/

/-- A place in a text: the code point before it and the text behind it. -/
structure Place where
  before : Option CodePoint
  rest : Text

/-- The place so many code points further on. -/
def Place.skip (x : Place) (n : Nat) : Place :=
  { before := Pattern.lastOf (x.rest.take n) x.before, rest := x.rest.drop n }

@[simp] theorem Place.skip_zero (x : Place) : x.skip 0 = x := rfl

@[simp] theorem Place.skip_succ (before : Option CodePoint) (c : CodePoint) (t : Text) (n : Nat) :
    Place.skip ⟨before, c :: t⟩ (n + 1) = Place.skip ⟨some c, t⟩ n := by
  rw [skip, skip, List.take_succ_cons, Pattern.lastOf_cons, List.drop_succ_cons]

theorem Place.skip_nil (before : Option CodePoint) (n : Nat) :
    Place.skip ⟨before, []⟩ n = ⟨before, []⟩ := by
  rw [skip, List.take_nil, List.drop_nil, Pattern.lastOf_nil]

theorem Place.skip_skip (x : Place) (n m : Nat) : (x.skip n).skip m = x.skip (n + m) := by
  obtain ⟨before, t⟩ := x
  induction n generalizing before t with
  | zero => rw [skip_zero, Nat.zero_add]
  | succ n ih =>
      cases t with
      | nil => rw [skip_nil, skip_nil, skip_nil]
      | cons c t => rw [Nat.succ_add, skip_succ, skip_succ, ih]

/-- Two places of which the second has the padded text behind it. The same code point stands before
them, except perhaps at the end of a line. -/
structure Beside (slack : Nat) (x y : Place) : Prop where
  padded : Padded slack x.rest y.rest
  before : x.before = y.before ∨ AtLineEnd x.rest

theorem Beside.of_padded {t t' : Text} (h : Padded k t t') (before : Option CodePoint) :
    Beside k ⟨before, t⟩ ⟨before, t'⟩ := ⟨h, Or.inl rfl⟩

theorem Beside.of_filler {before before' : Option CodePoint} {s : Text}
    (hs : ∀ c ∈ s, c.isFiller = true) (hlen : s.length ≤ k) :
    Beside k ⟨before, []⟩ ⟨before', s⟩ :=
  ⟨.behind hs hlen, Or.inr fun _ hc => by cases hc⟩

theorem Beside.skip_filler {before before' : Option CodePoint} {s : Text}
    (hs : ∀ c ∈ s, c.isFiller = true) (hlen : s.length ≤ k) (n : Nat) :
    Beside k ⟨before, []⟩ (Place.skip ⟨before', s⟩ n) :=
  .of_filler (fun c hc => hs c ((List.drop_sublist n s).mem hc))
    ((List.drop_sublist n s).length_le.trans hlen)

theorem Beside.of_returned {t t' : Text} (h : Padded k t t') (before before' : Option CodePoint) :
    Beside k ⟨before, CodePoint.ofChar '\n' :: t⟩
      ⟨before', CodePoint.ofChar '\r' :: CodePoint.ofChar '\n' :: t'⟩ :=
  ⟨.returned h, Or.inr (atLineEnd_lineFeed t)⟩

/-! ### Readers -/

namespace Reader

variable {α β : Type}

/-- Both readings fail, or both read related values and leave the places beside each other. -/
def Alike (V : α → α → Prop) (slack : Nat) (x y : Place) :
    Option (α × Nat) → Option (α × Nat) → Prop :=
  Option.Rel fun hit hit' => V hit.1 hit'.1 ∧ Beside slack (x.skip hit.2) (y.skip hit'.2)

/-- From places beside each other, the reader goes to places beside each other. -/
def Tracks (V : α → α → Prop) (r : Reader α) : Prop :=
  ∀ k x y, Beside k x y → Alike V k x y (r x.rest) (r y.rest)

variable {V : α → α → Prop} {W : β → β → Prop}

theorem Tracks.bind_of {r : Reader α} {f : α → Reader β} (hr : r.Tracks V)
    (hf : ∀ a b, V a b → ∀ k x y, Beside k x y → Alike W k x y (f a x.rest) (f b y.rest)) :
    (r >>= f).Tracks W := by
  intro k x y hxy
  show Alike W k x y (Reader.bind r f x.rest) (Reader.bind r f y.rest)
  have hread := hr k x y hxy
  rw [Reader.bind, Reader.bind]
  generalize r x.rest = hit at hread ⊢
  generalize r y.rest = hit' at hread ⊢
  cases hread with
  | none => exact .none
  | @some hit hit' h =>
      obtain ⟨a, n⟩ := hit
      obtain ⟨b, m⟩ := hit'
      have hnext := hf a b h.1 k _ _ h.2
      change Alike W k (x.skip n) (y.skip m) (f a (x.rest.drop n)) (f b (y.rest.drop m)) at hnext
      simp only
      generalize f a (x.rest.drop n) = next at hnext ⊢
      generalize f b (y.rest.drop m) = next' at hnext ⊢
      cases hnext with
      | none => exact .none
      | @some next next' h' =>
          obtain ⟨hvalue, hplace⟩ := h'
          rw [Place.skip_skip, Place.skip_skip] at hplace
          exact .some ⟨hvalue, hplace⟩

/-- A reader whose value is used. -/
theorem Tracks.bind {r : Reader α} {f : α → Reader β} (hr : r.Tracks Eq)
    (hf : ∀ a, (f a).Tracks W) : (r >>= f).Tracks W := by
  refine hr.bind_of ?_
  rintro a _ rfl
  exact hf a

/-- A reader whose value is not used. -/
theorem Tracks.andThen {r : Reader α} {k : Reader β} (hr : r.Tracks V) (hk : k.Tracks W) :
    (r >>= fun _ => k).Tracks W := hr.bind_of fun _ _ _ => hk

/-- In front of a padded text the reader reads the same value. -/
theorem Tracks.value_eq {r : Reader α} (hr : r.Tracks Eq) {t t' : Text} (h : Padded k t t') :
    (r t).map Prod.fst = (r t').map Prod.fst := by
  have hread := hr k ⟨none, t⟩ ⟨none, t'⟩ (.of_padded h none)
  simp only at hread
  generalize r t = hit at hread ⊢
  generalize r t' = hit' at hread ⊢
  cases hread with
  | none => rfl
  | some h => exact congrArg some h.1

theorem tracks_pure (a : α) : (pure a : Reader α).Tracks Eq :=
  fun _ _ _ hxy => .some ⟨rfl, hxy⟩

theorem tracks_fail : (fail : Reader α).Tracks V := fun _ _ _ _ => .none

theorem Tracks.orElse {r r' : Reader α} (hr : r.Tracks V) (hr' : r'.Tracks V) :
    (r.orElse r').Tracks V := by
  intro k x y hxy
  have hread := hr k x y hxy
  rw [Reader.orElse, Reader.orElse]
  generalize r x.rest = hit at hread ⊢
  generalize r y.rest = hit' at hread ⊢
  cases hread with
  | none => exact hr' k x y hxy
  | some h => exact .some h

theorem Tracks.optional {r : Reader α} (hr : r.Tracks V) : (optional r).Tracks Eq := by
  intro k x y hxy
  have hread := hr k x y hxy
  rw [Reader.optional, Reader.optional]
  generalize r x.rest = hit at hread ⊢
  generalize r y.rest = hit' at hread ⊢
  cases hread with
  | none => exact .some ⟨rfl, hxy⟩
  | some h => exact .some ⟨rfl, h.2⟩

/-! #### Single code points -/

section Solid

variable {p : CodePoint → Bool} (hp : ∀ c, c.isFiller = true → p c = false)

include hp

theorem one_filler {s : Text} (hs : ∀ c ∈ s, c.isFiller = true) : one p s = none := by
  cases s with
  | nil => rfl
  | cons c s => rw [one, hp c (hs c List.mem_cons_self), if_neg Bool.false_ne_true]

theorem tracks_one : (one p).Tracks Eq := by
  rintro k ⟨before, t⟩ ⟨before', t'⟩ ⟨hpadded, -⟩
  cases hpadded with
  | behind hs hlen =>
      simp only [one_filler hp hs]
      exact .none
  | @cons c t t' h =>
      simp only [one]
      split
      · exact .some ⟨rfl, .of_padded h (some c)⟩
      · exact .none
  | returned h =>
      simp only [one, hp _ CodePoint.isFiller_lineFeed, hp _ CodePoint.isFiller_return]
      exact .none

theorem tracks_notBefore : (notBefore p).Tracks Eq := by
  rintro k ⟨before, t⟩ ⟨before', t'⟩ hxy
  obtain ⟨hpadded, -⟩ := id hxy
  cases hpadded with
  | behind hs hlen =>
      cases t' with
      | nil => exact .some ⟨rfl, hxy⟩
      | cons c s =>
          simp only [notBefore, hp c (hs c List.mem_cons_self)]
          exact .some ⟨rfl, hxy⟩
  | cons c h =>
      simp only [notBefore]
      split
      · exact .none
      · exact .some ⟨rfl, hxy⟩
  | returned h =>
      simp only [notBefore, hp _ CodePoint.isFiller_lineFeed, hp _ CodePoint.isFiller_return]
      exact .some ⟨rfl, hxy⟩

end Solid

theorem tracks_char {x : Char} (hx : (CodePoint.ofChar x).isFiller = false) :
    (char x).Tracks Eq := tracks_one fun _ => CodePoint.isFiller_ne hx

/-- A text without fillers stands in front of both rests or of neither. -/
theorem Beside.skip_word {w : Text} (hw : ∀ c ∈ w, c.isFiller = false) {x y : Place}
    (hxy : Beside k x y) :
    (w <+: x.rest ∧ w <+: y.rest ∧ Beside k (x.skip w.length) (y.skip w.length)) ∨
      (¬ w <+: x.rest ∧ ¬ w <+: y.rest) := by
  induction w generalizing x y with
  | nil => exact Or.inl ⟨List.nil_prefix, List.nil_prefix, hxy⟩
  | cons c w ih =>
      have hc := hw c List.mem_cons_self
      have hne : ∀ d : CodePoint, d.isFiller = true → c ≠ d := by
        rintro d hd rfl
        rw [hc] at hd
        cases hd
      obtain ⟨before, t⟩ := x
      obtain ⟨before', t'⟩ := y
      obtain ⟨hpadded, -⟩ := hxy
      cases hpadded with
      | @behind s hs hlen =>
          refine Or.inr ⟨fun h => absurd (List.prefix_nil.mp h) (List.cons_ne_nil _ _), ?_⟩
          rintro ⟨rest, rfl⟩
          exact hne c (hs c List.mem_cons_self) rfl
      | @cons d t t' h =>
          simp only [List.cons_prefix_cons, List.length_cons, Place.skip_succ]
          by_cases hcd : c = d
          · subst hcd
            rcases ih (fun e he => hw e (List.mem_cons_of_mem _ he)) (.of_padded h (some c)) with
              h' | h'
            · exact Or.inl ⟨⟨rfl, h'.1⟩, ⟨rfl, h'.2.1⟩, h'.2.2⟩
            · exact Or.inr ⟨fun hw => h'.1 hw.2, fun hw => h'.2 hw.2⟩
          · exact Or.inr ⟨fun hw => hcd hw.1, fun hw => hcd hw.1⟩
      | returned h =>
          simp only [List.cons_prefix_cons]
          exact Or.inr ⟨fun h' => hne _ CodePoint.isFiller_lineFeed h'.1,
            fun h' => hne _ CodePoint.isFiller_return h'.1⟩

theorem tracks_exactly {w : Text} (hw : ∀ c ∈ w, c.isFiller = false) :
    (exactly w).Tracks Eq := by
  intro k x y hxy
  rw [exactly, exactly]
  rcases Beside.skip_word hw hxy with ⟨hx, hy, hskip⟩ | ⟨hx, hy⟩
  · rw [if_pos (List.isPrefixOf_iff_prefix.mpr hx), if_pos (List.isPrefixOf_iff_prefix.mpr hy)]
    exact .some ⟨rfl, hskip⟩
  · rw [if_neg (mt List.isPrefixOf_iff_prefix.mp hx), if_neg (mt List.isPrefixOf_iff_prefix.mp hy)]
    exact .none

/-! #### Runs -/

/-- A run ends beside the run in the padded text, if it takes carriage returns where it takes line
feeds. -/
theorem Beside.skip_run {p : CodePoint → Bool}
    (hp : p (CodePoint.ofChar '\n') = true → p (CodePoint.ofChar '\r') = true) {x y : Place}
    (hxy : Beside k x y) :
    Beside k (x.skip (x.rest.takeWhile p).length) (y.skip (y.rest.takeWhile p).length) := by
  obtain ⟨before, t⟩ := x
  obtain ⟨before', t'⟩ := y
  obtain ⟨(hpadded : Padded k t t'), hbefore⟩ := hxy
  induction hpadded generalizing before before' with
  | @behind s hs hlen =>
      exact .skip_filler hs hlen _
  | @cons c t t' h ih =>
      simp only [List.takeWhile_cons]
      split
      · simp only [List.length_cons, Place.skip_succ]
        exact ih _ _ (Or.inl rfl)
      · exact ⟨.cons c h, hbefore⟩
  | @returned t t' h ih =>
      simp only [List.takeWhile_cons]
      cases hline : p (CodePoint.ofChar '\n') with
      | true =>
          simp only [hp hline, if_true, List.length_cons, Place.skip_succ]
          exact ih _ _ (Or.inl rfl)
      | false =>
          simp only [Bool.false_eq_true, if_false]
          split
          · exact ⟨.cons _ h, Or.inr (atLineEnd_lineFeed t)⟩
          · exact .of_returned h _ _

theorem tracks_run {p : CodePoint → Bool}
    (hp : p (CodePoint.ofChar '\n') = true → p (CodePoint.ofChar '\r') = true) :
    (run p).Tracks fun _ _ => True :=
  fun _ _ _ hxy => .some ⟨trivial, Beside.skip_run hp hxy⟩

theorem tracks_blanks : blanks.Tracks fun _ _ => True := tracks_run fun _ => by decide

/-- A run that has no fillers in it is the same in the padded text. -/
theorem takeWhile_eq_of_padded {p : CodePoint → Bool} (hp : ∀ c, c.isFiller = true → p c = false)
    {t t' : Text} (h : Padded k t t') : t.takeWhile p = t'.takeWhile p := by
  induction h with
  | @behind s hs hlen =>
      cases s with
      | nil => rfl
      | cons c s => rw [List.takeWhile_cons, hp c (hs c List.mem_cons_self)]; rfl
  | cons c h ih => rw [List.takeWhile_cons, List.takeWhile_cons, ih]
  | returned h ih =>
      rw [List.takeWhile_cons, List.takeWhile_cons, hp _ CodePoint.isFiller_lineFeed,
        hp _ CodePoint.isFiller_return]
      rfl

section Solid

variable {p : CodePoint → Bool} (hp : ∀ c, c.isFiller = true → p c = false)

include hp

theorem Beside.skip_solidRun {x y : Place} (hxy : Beside k x y) :
    Beside k (x.skip (x.rest.takeWhile p).length) (y.skip (y.rest.takeWhile p).length) := by
  refine Beside.skip_run (fun h => ?_) hxy
  rw [hp _ CodePoint.isFiller_lineFeed] at h
  cases h

theorem tracks_solidRun : (run p).Tracks Eq :=
  fun _ _ _ hxy => .some ⟨takeWhile_eq_of_padded hp hxy.padded, Beside.skip_solidRun hp hxy⟩

theorem tracks_run1 : (run1 p).Tracks Eq := by
  intro k x y hxy
  have hsame := takeWhile_eq_of_padded hp hxy.padded
  have hskip := Beside.skip_solidRun hp hxy
  simp only [run1]
  rw [← hsame] at hskip ⊢
  split
  · exact .none
  · exact .some ⟨rfl, hskip⟩

end Solid

theorem tracks_wordAmong (words : List Text) : (wordAmong words).Tracks Eq := by
  refine (tracks_run1 fun _ => CodePoint.isWord_of_isFiller).bind fun w => ?_
  split
  · exact tracks_pure w
  · exact tracks_fail

/-- The same for a run that is cut off after a number of code points and takes no line feeds. -/
theorem Beside.skip_runAtMost {p : CodePoint → Bool} (hp : p (CodePoint.ofChar '\n') = false)
    {x y : Place} (hxy : Beside k x y) (n : Nat) :
    Beside k (x.skip ((x.rest.take n).takeWhile p).length)
      (y.skip ((y.rest.take n).takeWhile p).length) := by
  obtain ⟨before, t⟩ := x
  obtain ⟨before', t'⟩ := y
  obtain ⟨(hpadded : Padded k t t'), hbefore⟩ := hxy
  induction hpadded generalizing before before' n with
  | @behind s hs hlen =>
      rw [List.take_nil]
      exact .skip_filler hs hlen _
  | @cons c t t' h ih =>
      cases n with
      | zero => exact ⟨.cons c h, hbefore⟩
      | succ n =>
          simp only [List.take_succ_cons, List.takeWhile_cons]
          split
          · simp only [List.length_cons, Place.skip_succ]
            exact ih n _ _ (Or.inl rfl)
          · exact ⟨.cons c h, hbefore⟩
  | @returned t t' h ih =>
      cases n with
      | zero => exact .of_returned h _ _
      | succ n =>
          simp only [List.take_succ_cons, List.takeWhile_cons, hp, Bool.false_eq_true, if_false]
          split
          · have hnone : ((CodePoint.ofChar '\n' :: t').take n).takeWhile p = [] := by
              cases n with
              | zero => rfl
              | succ n => rw [List.take_succ_cons, List.takeWhile_cons, hp]; rfl
            rw [hnone]
            exact ⟨.cons _ h, Or.inr (atLineEnd_lineFeed t)⟩
          · exact .of_returned h _ _

theorem tracks_runAtMost {p : CodePoint → Bool} (hp : p (CodePoint.ofChar '\n') = false) (n : Nat) :
    (runAtMost n p).Tracks fun _ _ => True :=
  fun _ _ _ hxy => .some ⟨trivial, Beside.skip_runAtMost hp hxy n⟩

/-! #### Readers that begin with no filler -/

/-- The reader begins with no filler and goes along with the padding, with the same value. -/
structure Steady (r : Reader α) : Prop where
  begins : r.Begins (CodePoint.isFiller · = false)
  tracks : r.Tracks Eq

/-- Only the first of several readers has to begin with no filler. -/
theorem Steady.bind {r : Reader α} {f : α → Reader β} (hr : r.Steady) (hf : ∀ a, (f a).Tracks Eq) :
    (r >>= f).Steady := ⟨hr.begins.bind f, hr.tracks.bind hf⟩

theorem Steady.orElse {r r' : Reader α} (hr : r.Steady) (hr' : r'.Steady) : (r.orElse r').Steady :=
  ⟨hr.begins.orElse hr'.begins, hr.tracks.orElse hr'.tracks⟩

theorem steady_exactly {w : Text} (hw : w.IsSolid) : (exactly w).Steady where
  begins := by
    obtain ⟨c, w, rfl⟩ := List.exists_cons_of_ne_nil hw.1
    exact (begins_exactly c w).mono fun d hd => by rw [hd]; exact hw.2 c List.mem_cons_self
  tracks := tracks_exactly hw.2

theorem steady_one {p : CodePoint → Bool} (hp : ∀ c, c.isFiller = true → p c = false) :
    (one p).Steady where
  begins := (begins_one p).mono fun c hc => by
    rw [Bool.eq_false_iff]
    intro hfiller
    rw [hp c hfiller] at hc
    cases hc
  tracks := tracks_one hp

theorem steady_char {x : Char} (hx : (CodePoint.ofChar x).isFiller = false) : (char x).Steady where
  begins := (begins_char x).mono fun c hc => by rw [hc, hx]
  tracks := tracks_char hx

theorem steady_wordAmong (words : List Text) : (wordAmong words).Steady where
  begins := (begins_wordAmong words).mono fun _ => CodePoint.isFiller_of_isWord
  tracks := tracks_wordAmong words

theorem run1_bind_eq (p : CodePoint → Bool) (r : Reader α) (t : Text) :
    (run1 p >>= fun _ => r) t = if t.head?.any p then (run p >>= fun _ => r) t else none := by
  cases t with
  | nil => rfl
  | cons c t =>
      show Reader.bind (run1 p) (fun _ => r) (c :: t) =
        if p c then Reader.bind (run p) (fun _ => r) (c :: t) else none
      by_cases hc : p c = true
      · rw [if_pos hc, Reader.bind, Reader.bind, run1, run, List.takeWhile_cons, if_pos hc]
        rfl
      · rw [if_neg hc, Reader.bind, run1, List.takeWhile_cons, if_neg hc]
        rfl

/-- At least one blank, and behind the blanks something that begins with no filler. -/
theorem tracks_blanks1 {r : Reader α} (hr : r.Tracks V)
    (hbegins : r.Begins (CodePoint.isFiller · = false)) :
    (run1 CodePoint.isBlank >>= fun _ => r).Tracks V := by
  rintro k ⟨before, t⟩ ⟨before', t'⟩ hxy
  obtain ⟨hpadded, -⟩ := id hxy
  have hread : Alike V k ⟨before, t⟩ ⟨before', t'⟩ ((run CodePoint.isBlank >>= fun _ => r) t)
      ((run CodePoint.isBlank >>= fun _ => r) t') := tracks_blanks.andThen hr k _ _ hxy
  show Alike V k _ _ ((run1 CodePoint.isBlank >>= fun _ => r) t)
    ((run1 CodePoint.isBlank >>= fun _ => r) t')
  rw [run1_bind_eq, run1_bind_eq]
  cases hpadded with
  | behind hs hlen =>
      -- Where nothing is left of the text, nothing is read behind the blanks of the padding.
      have hnone : (run CodePoint.isBlank >>= fun _ => r) [] = none := by
        rw [Option.eq_none_iff_forall_ne_some]
        rintro hit hsome
        obtain ⟨_, n, m, -, hb, -⟩ := bind_eq_some.mp hsome
        rw [List.drop_nil, hbegins.nil] at hb
        cases hb
      rw [hnone] at hread
      rw [List.head?_nil, Option.any_none, if_neg Bool.false_ne_true]
      split
      · exact hread
      · exact .none
  | cons c h =>
      rw [List.head?_cons, List.head?_cons, Option.any_some]
      split
      · exact hread
      · exact .none
  | returned h => exact hread

/-- A text, blanks, and an opening parenthesis. -/
theorem steady_textCall {w : Text} (hw : w.IsSolid) :
    (do let _ ← exactly w; let _ ← blanks; let _ ← char '('; return () : Reader Unit).Steady :=
  (steady_exactly hw).bind fun _ => tracks_blanks.andThen <|
    (tracks_char (by decide)).bind fun _ => tracks_pure ()

end Reader

end BigO
