import BigO.Indented.Signals
import BigO.Proofs.Source.PaddedScan

/-! The patterns of indented code in a padded text. Padding does not show to any of them, nor to the
header of a function behind its indentation. -/

namespace BigO.Indented

open Pattern Reader

theorem steady_callOf {name : Text} (h : name.IsSolid) : (callOf name).Steady :=
  steady_after (steady_textCall h) _

theorem steady_divmodCall : divmodCall.Steady := steady_after (steady_textCall (by decide)) _

theorem steady_listCall : listCall.Steady := steady_after (steady_textCall (by decide)) _

theorem steady_listAssignment : listAssignment.Steady := by
  refine steady_anywhere ((steady_char (by decide)).bind fun _ => tracks_blanks.andThen ?_)
  exact (tracks_char (by decide)).bind fun _ => tracks_pure ()

/-- Operator, blanks, and a digit that is a number of its own. -/
theorem tracks_digitBehindBlanks {x : Char} (hx : (CodePoint.ofChar x).isFiller = false) :
    (do let _ ← blanks; let _ ← char x; notBefore CodePoint.isWord : Reader Unit).Tracks Eq :=
  tracks_blanks.andThen <| (tracks_char hx).bind fun _ =>
    tracks_notBefore fun _ => CodePoint.isWord_of_isFiller

theorem steady_floorHalf : floorHalf.Steady :=
  steady_anywhere ((steady_exactly (by decide)).bind fun _ => tracks_digitBehindBlanks (by decide))

theorem steady_shiftByOne : shiftByOne.Steady :=
  steady_anywhere ((steady_exactly (by decide)).bind fun _ => tracks_digitBehindBlanks (by decide))

theorem steady_word (w : String) : (word w).Steady := steady_wholeWord _

theorem steady_decisionPoint : decisionPoint.Steady := steady_wholeWord _

/-! ### Headers -/

theorem isWord_of_begin {c : CodePoint} (h : (c.isLetter || decide (c = '_')) = true) :
    c.isWord = true := by
  rw [Bool.or_eq_true, decide_eq_true_eq] at h
  rcases h with hletter | rfl
  · exact CodePoint.isWord_of_isLetter hletter
  · decide

/-- What a header has behind the keyword and the blanks there. -/
def declared (margin : Text) : Reader (Nat × Text) := do
  let first ← one fun c => c.isLetter || c = '_'
  let rest ← run CodePoint.isWord
  let _ ← blanks
  let _ ← char '('
  return (margin.length, first :: rest)

theorem steady_declared (margin : Text) : (declared margin).Steady := by
  have hbegin := steady_one fun _ => CodePoint.isFiller_notIn fun _ => isWord_of_begin
  refine hbegin.bind fun first => ?_
  refine (tracks_solidRun fun _ => CodePoint.isWord_of_isFiller).bind fun rest => ?_
  exact tracks_blanks.andThen ((tracks_char (by decide)).bind fun _ => tracks_pure _)

/-- What a header has behind its indentation, apart from the mark of an asynchronous function. -/
def defined (margin : Text) : Reader (Nat × Text) := do
  let _ ← exactly (text "def")
  let _ ← run1 CodePoint.isBlank
  declared margin

theorem steady_defined (margin : Text) : (defined margin).Steady :=
  (steady_exactly (by decide)).bind fun _ =>
    tracks_blanks1 (steady_declared margin).tracks (steady_declared margin).begins

/-- The mark of an asynchronous function. -/
def async : Reader Text := do
  let _ ← exactly (text "async")
  run1 CodePoint.isBlank

theorem header_eq :
    header = (run (fun c => decide (c = ' ') || decide (c = '\t')) >>= fun margin =>
      optional async >>= fun _ => defined margin) := rfl

theorem begins_async : async.Begins (· = CodePoint.ofChar 'a') := (begins_exactly _ _).bind _

theorem begins_defined (margin : Text) : (defined margin).Begins (· = CodePoint.ofChar 'd') :=
  (begins_exactly _ _).bind _

/-- What a header has behind its indentation, the mark of an asynchronous function included. -/
theorem tracks_async_defined (margin : Text) :
    (optional async >>= fun _ => defined margin).Tracks Eq := by
  have hdefined := steady_defined margin
  rw [optional_bind_eq begins_async (begins_defined margin) (by rintro c rfl; decide)]
  refine Tracks.orElse ?_ hdefined.tracks
  rw [async, bind_assoc]
  exact (tracks_exactly (by decide)).bind fun _ => tracks_blanks1 hdefined.tracks hdefined.begins

/-- The indentation of a header. -/
def marginOf (line : Text) : Text := line.takeWhile fun c => decide (c = ' ') || decide (c = '\t')

theorem header?_eq (line : Text) :
    header? line = ((optional async >>= fun _ => defined (marginOf line))
      (line.drop (marginOf line).length)).map Prod.fst := by
  rw [header?, header_eq, value_bind]
  rfl

/-- Indentation is of spaces and tabs, so a line is the same header with a carriage return behind
it. -/
theorem header?_append_return (line : Text) :
    header? (line ++ [CodePoint.ofChar '\r']) = header? line := by
  have hmargin : marginOf (line ++ [CodePoint.ofChar '\r']) = marginOf line :=
    takeWhile_append_cons (by decide) line []
  have hlength : (marginOf line).length ≤ line.length := (List.takeWhile_sublist _).length_le
  rw [header?_eq, header?_eq, hmargin, List.drop_append_of_le_length hlength]
  refine ((tracks_async_defined _).value_eq (Padded.append_filler _ fun c hc => ?_)).symm
  rw [List.mem_singleton.mp hc]
  exact CodePoint.isFiller_return

/-- The name that a header defines is a word. -/
theorem gives_header : header.Gives fun hit => hit.2.IsSolid := by
  rw [header_eq]
  refine Gives.andThen _ fun margin => Gives.andThen _ fun _ => Gives.andThen _ fun _ => ?_
  refine Gives.andThen _ fun _ => (gives_one _).bind fun first hfirst => ?_
  refine (gives_run _).bind fun rest hrest => Gives.andThen _ fun _ => Gives.andThen _ fun _ => ?_
  refine gives_pure ⟨List.cons_ne_nil _ _, List.forall_mem_cons.mpr ⟨?_, fun c hc => ?_⟩⟩
  · exact CodePoint.isFiller_of_isWord (isWord_of_begin hfirst)
  · exact CodePoint.isFiller_of_isWord (hrest c hc)

theorem isSolid_of_header? {line name : Text} {margin : Nat}
    (h : header? line = some (margin, name)) : name.IsSolid := by
  obtain ⟨⟨_, n⟩, hread, rfl⟩ := Option.map_eq_some_iff.mp h
  exact gives_header line _ n hread

end BigO.Indented
