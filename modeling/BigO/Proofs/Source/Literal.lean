import BigO.Proofs.Text.Scan
import BigO.Source.Literal

/-! What a literal is and what masking makes of a text. The reader of a literal and the grammar of
its body agree: from a quote on there is at most one literal, whatever follows it. So a text whose
quotes all belong to literals is masked on its own, apart from what stands behind it. -/

namespace BigO.Source

namespace Quote

/-- What may stand between two quotes: escapes, which are a backslash and a code point that is no
line feed, and code points that stand for themselves. -/
inductive Body (q : Quote) : Text → Prop where
  | nil : Body q []
  | escape {c : CodePoint} {rest : Text} (hc : c ≠ '\n') (hrest : Body q rest) :
      Body q (CodePoint.ofChar '\\' :: c :: rest)
  | plain {c : CodePoint} {rest : Text} (hc : q.isPlain c) (hrest : Body q rest) :
      Body q (c :: rest)

theorem mark_ne_backslash (q : Quote) : CodePoint.ofChar '\\' ≠ q.mark := by
  cases q <;> decide

theorem mark_ne_lineFeed (q : Quote) : q.mark ≠ '\n' := by
  cases q <;> decide

theorem ofMark?_mark (q : Quote) : ofMark? q.mark = some q := by
  cases q <;> decide

theorem eq_mark_of_ofMark? {c : CodePoint} {q : Quote} (h : ofMark? c = some q) : c = q.mark := by
  have hmark := List.find?_some h
  exact (of_decide_eq_true hmark).symm

end Quote

theorem closingFrom_body {q : Quote} {body : Text} (hbody : q.Body body) (taken : Nat)
    (rest : Text) :
    closingFrom q taken (body ++ q.mark :: rest) = some (taken + body.length + 1) := by
  induction hbody generalizing taken with
  | nil => cases rest <;> simp [closingFrom]
  | @escape c body hc _ ih =>
      have hmark := q.mark_ne_backslash
      simp only [List.cons_append, closingFrom, if_neg hmark, if_neg hc, if_true, ih]
      simp only [List.length_cons]
      congr 1
      omega
  | @plain c body hc _ ih =>
      obtain ⟨d, tail, htail⟩ : ∃ d tail, body ++ q.mark :: rest = d :: tail := by
        cases body <;> simp
      have hc' := hc
      simp only [Quote.isPlain, Bool.and_eq_true, decide_eq_true_eq] at hc'
      rw [List.cons_append, htail, closingFrom, if_neg hc'.1.1, if_neg hc'.1.2, if_pos hc, ← htail,
        ih, List.length_cons]
      congr 1
      omega

/-- Where the reader finds a closing quote, a body stands before it. -/
theorem body_of_closingFrom {q : Quote} {taken n : Nat} {t : Text}
    (h : closingFrom q taken t = some n) :
    ∃ body rest, q.Body body ∧ t = body ++ q.mark :: rest ∧ n = taken + body.length + 1 := by
  induction taken, t using closingFrom.induct q with
  | case1 taken => simp [closingFrom] at h
  | case2 taken =>
      rw [closingFrom, if_pos rfl, Option.some.injEq] at h
      exact ⟨[], [], .nil, rfl, h.symm⟩
  | case3 taken c hc => simp [closingFrom, hc] at h
  | case4 taken d rest =>
      rw [closingFrom, if_pos rfl, Option.some.injEq] at h
      exact ⟨[], d :: rest, .nil, rfl, h.symm⟩
  | case5 taken rest hmark => simp [closingFrom, hmark] at h
  | case6 taken d rest hd hmark ih =>
      rw [closingFrom, if_neg hmark, if_pos rfl, if_neg hd] at h
      obtain ⟨body, tail, hbody, rfl, hn⟩ := ih h
      refine ⟨CodePoint.ofChar '\\' :: d :: body, tail, .escape hd hbody, rfl, ?_⟩
      simp only [List.length_cons]
      omega
  | case7 taken c d rest hmark hbackslash hplain ih =>
      rw [closingFrom, if_neg hmark, if_neg hbackslash, if_pos hplain] at h
      obtain ⟨body, tail, hbody, htail, hn⟩ := ih h
      refine ⟨c :: body, tail, .plain hplain hbody, by rw [htail]; rfl, ?_⟩
      simp only [List.length_cons]
      omega
  | case8 taken c d rest hmark hbackslash hplain =>
      simp [closingFrom, hmark, hbackslash, hplain] at h

theorem body_iff {q : Quote} {body : Text} :
    q.Body body ↔ closingFrom q 0 (body ++ [q.mark]) = some (body.length + 1) := by
  constructor
  · intro hbody
    rw [closingFrom_body hbody, Nat.zero_add]
  · intro h
    obtain ⟨body', rest, hbody, hsplit, hlen⟩ := body_of_closingFrom h
    have hsame := List.append_inj_left hsplit (by omega)
    rwa [hsame]

instance (q : Quote) (body : Text) : Decidable (q.Body body) := decidable_of_iff _ body_iff.symm

/-- A body in the text, with the quotes around it, is a literal there. -/
theorem literal_body {q : Quote} {body : Text} (hbody : q.Body body) (before : Option CodePoint)
    (rest : Text) :
    literal before (q.mark :: (body ++ q.mark :: rest)) = some (q, body.length + 2) := by
  simp only [literal, Pattern.anywhere, Quote.ofMark?_mark, closingFrom_body hbody,
    Option.map_some]
  congr 2
  omega

/-- A literal in front of a text is a body between two quotes. -/
theorem body_of_literal {before : Option CodePoint} {t : Text} {q : Quote} {n : Nat}
    (h : literal before t = some (q, n)) :
    ∃ body rest, q.Body body ∧ t = q.mark :: (body ++ q.mark :: rest) ∧ n = body.length + 2 := by
  cases t with
  | nil => cases h
  | cons c rest =>
      simp only [literal, Pattern.anywhere] at h
      cases hmark : Quote.ofMark? c with
      | none => rw [hmark] at h; cases h
      | some q' =>
          rw [hmark] at h
          obtain ⟨m, hclosing, hm⟩ := Option.map_eq_some_iff.mp h
          cases hm
          obtain ⟨body, tail, hbody, rfl, hn⟩ := body_of_closingFrom hclosing
          exact ⟨body, tail, hbody, by rw [Quote.eq_mark_of_ofMark? hmark], by omega⟩

/-! ### Masking -/

theorem literal_ignoresBefore : literal.IgnoresBefore := fun _ _ => rfl

@[simp] theorem maskLiterals_nil : maskLiterals [] = [] := rfl

/-- What stands in a masked text for a literal depends on the line feeds in its body alone. -/
theorem emptied_literal (q : Quote) (body : Text) :
    emptied (q.mark :: (body ++ [q.mark])) =
      text "\"\"" ++
        List.replicate (body.count (CodePoint.ofChar '\n')) (CodePoint.ofChar '\n') := by
  rw [emptied, List.count_cons_of_ne q.mark_ne_lineFeed, List.count_append,
    List.count_cons_of_ne q.mark_ne_lineFeed, List.count_nil, Nat.add_zero]

theorem maskLiterals_literal {q : Quote} {body : Text} (hbody : q.Body body) (rest : Text) :
    maskLiterals (q.mark :: (body ++ q.mark :: rest)) =
      emptied (q.mark :: (body ++ [q.mark])) ++ maskLiterals rest := by
  have hread := literal_body hbody none rest
  rw [maskLiterals, Pattern.replace_eq_replaceFrom, Pattern.replaceFrom_token hread,
    literal_ignoresBefore.replaceFrom_eq]
  have hsplit : body ++ q.mark :: rest = (body ++ [q.mark]) ++ rest := by simp
  rw [hsplit, List.take_left' (by simp), List.drop_left' (by simp)]
  rfl

theorem maskLiterals_plain {c : CodePoint} {rest : Text}
    (h : ∀ (q : Quote) body tail, q.Body body → c :: rest ≠ q.mark :: (body ++ q.mark :: tail)) :
    maskLiterals (c :: rest) = c :: maskLiterals rest := by
  have hread : ∀ q n, literal none (c :: rest) ≠ some (q, n + 1) := by
    intro q n hread
    obtain ⟨body, tail, hbody, ht, _⟩ := body_of_literal hread
    exact h q body tail hbody ht
  rw [maskLiterals, Pattern.replace_eq_replaceFrom, Pattern.replaceFrom_plain hread,
    literal_ignoresBefore.replaceFrom_eq]
  rfl

/-- Every text is empty or begins with a literal or with a code point that masking keeps. -/
theorem literal_induction {motive : Text → Prop} (nil : motive [])
    (literal : ∀ (q : Quote) body rest, q.Body body → motive rest →
      motive (q.mark :: (body ++ q.mark :: rest)))
    (plain : ∀ c rest,
      (∀ (q : Quote) body tail, q.Body body → c :: rest ≠ q.mark :: (body ++ q.mark :: tail)) →
      motive rest → motive (c :: rest)) (t : Text) : motive t := by
  induction hlen : t.length using Nat.strongRecOn generalizing t with
  | ind len ih =>
      cases t with
      | nil => exact nil
      | cons c rest =>
          by_cases hfront : ∃ (q : Quote) (body tail : Text), q.Body body ∧
              c :: rest = q.mark :: (body ++ q.mark :: tail)
          · obtain ⟨q, body, tail, hbody, hsplit⟩ := hfront
            rw [hsplit] at hlen ⊢
            refine literal q body tail hbody (ih _ ?_ tail rfl)
            simp only [List.length_cons, List.length_append] at hlen
            omega
          · refine plain c rest (fun q body tail hbody hsplit => ?_) (ih _ ?_ rest rfl)
            · exact hfront ⟨q, body, tail, hbody, hsplit⟩
            · exact hlen ▸ Nat.lt_succ_self _

theorem maskLiterals_noQuote {c : CodePoint} {rest : Text} (h : Quote.ofMark? c = none) :
    maskLiterals (c :: rest) = c :: maskLiterals rest := by
  refine maskLiterals_plain fun q body tail _ ht => ?_
  rw [List.cons.injEq] at ht
  rw [ht.1, q.ofMark?_mark] at h
  cases h

theorem maskLiterals_of_noQuotes {s : Text} (hs : ∀ c ∈ s, Quote.ofMark? c = none) :
    maskLiterals s = s := by
  induction s with
  | nil => rfl
  | cons c s ih =>
      rw [maskLiterals_noQuote (hs c List.mem_cons_self),
        ih fun d hd => hs d (List.mem_cons_of_mem _ hd)]

/-- What stands behind a text and holds no quotes is masked apart from it, although a literal may be
left open in the text. -/
theorem maskLiterals_append_noQuotes (t : Text) {s : Text}
    (hs : ∀ c ∈ s, Quote.ofMark? c = none) : maskLiterals (t ++ s) = maskLiterals t ++ s := by
  induction t using literal_induction with
  | nil => exact maskLiterals_of_noQuotes hs
  | literal q body rest hbody ih =>
      rw [maskLiterals_literal hbody, List.append_assoc, ← ih, ← maskLiterals_literal hbody]
      simp only [List.cons_append, List.append_assoc]
  | plain c rest hnone ih =>
      have hmark : ∀ q : Quote, q.mark ∉ s := by
        intro q hmem
        have hquote := hs q.mark hmem
        rw [q.ofMark?_mark] at hquote
        cases hquote
      have hnone' : ∀ (q : Quote) body tail, q.Body body →
          c :: (rest ++ s) ≠ q.mark :: (body ++ q.mark :: tail) := by
        intro q body tail hbody hsplit
        obtain ⟨rfl, hrest⟩ := List.cons.inj hsplit
        -- The closing quote stands in the text itself.
        rcases List.append_eq_append_iff.mp hrest with ⟨a, rfl, rfl⟩ | ⟨a, rfl, hclose⟩
        · exact hmark q (List.mem_append_right a List.mem_cons_self)
        · cases a with
          | nil =>
              obtain rfl : q.mark :: tail = s := hclose
              exact hmark q List.mem_cons_self
          | cons d a =>
              obtain ⟨rfl, -⟩ := List.cons.inj hclose
              exact hnone q body a hbody rfl
      rw [List.cons_append, maskLiterals_plain hnone', maskLiterals_plain hnone, ih,
        List.cons_append]

/-- A token of the scan is a body with its quotes. -/
theorem body_of_literal_mem {t w : Text} {q : Quote} (h : Piece.token q w ∈ literal.pieces t) :
    ∃ body, q.Body body ∧ w = q.mark :: (body ++ [q.mark]) := by
  obtain ⟨before, c, rest, n, hread, rfl⟩ := Pattern.read_of_token_mem literal h
  obtain ⟨body, tail, hbody, hsplit, hn⟩ := body_of_literal hread
  obtain ⟨rfl, rfl⟩ := List.cons.inj hsplit
  refine ⟨body, hbody, ?_⟩
  rw [Nat.add_right_cancel hn, List.append_cons, List.take_left' (by simp)]

/-- Masking does not lengthen a text: the quotes stay and of the body at most the line feeds. -/
theorem length_maskLiterals_le (t : Text) : (maskLiterals t).length ≤ t.length := by
  refine Pattern.length_replace_le fun q w hw => ?_
  obtain ⟨body, _, rfl⟩ := body_of_literal_mem hw
  have hcount := List.count_le_length (a := CodePoint.ofChar '\n') (l := body)
  rw [emptied_literal]
  simp only [List.length_append, List.length_replicate, List.length_cons, List.length_nil]
  have hquotes : (text "\"\"").length = 2 := rfl
  omega

/-- Every quote of the text belongs to a literal that the scan from the left finds in it. -/
def QuotesClosed (t : Text) : Prop :=
  ∀ c, Piece.plain c ∈ literal.pieces t → Quote.ofMark? c = none

instance (t : Text) : Decidable (QuotesClosed t) :=
  decidable_of_iff (∀ piece ∈ literal.pieces t, ∀ c ∈ piece.plain?, Quote.ofMark? c = none) <| by
    constructor
    · intro h c hc
      exact h _ hc c rfl
    · intro h piece hpiece c hc
      cases piece with
      | plain d =>
          cases hc
          exact h c hpiece
      | token q w => cases hc

/-- A text whose quotes all belong to literals is masked apart from what stands behind it. -/
theorem maskLiterals_append {t : Text} (ht : QuotesClosed t) (s : Text) :
    maskLiterals (t ++ s) = maskLiterals t ++ maskLiterals s := by
  rw [QuotesClosed, Pattern.pieces_eq_scan] at ht
  generalize (none : Option CodePoint) = before at ht
  induction before, t using Pattern.scan_induction literal with
  | nil before => rfl
  | token before c rest q n hread ih =>
      obtain ⟨body, tail, hbody, hsplit, hn⟩ := body_of_literal hread
      rw [Pattern.scan_token hread] at ht
      have htail := ih fun d hd => ht d (List.mem_cons_of_mem _ hd)
      obtain ⟨rfl, rfl⟩ := List.cons.inj hsplit
      have hdrop : (body ++ q.mark :: tail).drop n = tail := by
        rw [Nat.add_right_cancel hn, List.append_cons, List.drop_left' (by simp)]
      rw [hdrop] at htail
      simp only [List.cons_append, List.append_assoc]
      rw [maskLiterals_literal hbody, maskLiterals_literal hbody, htail, List.append_assoc]
  | plain before c rest hread ih =>
      rw [Pattern.scan_plain hread] at ht
      have hc := ht c List.mem_cons_self
      have hrest := ih fun d hd => ht d (List.mem_cons_of_mem _ hd)
      rw [List.cons_append, maskLiterals_noQuote hc, maskLiterals_noQuote hc, hrest,
        List.cons_append]

end BigO.Source
