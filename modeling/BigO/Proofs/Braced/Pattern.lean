import BigO.Braced.Signals
import BigO.Proofs.Source.PaddedScan

/-! The patterns of braced code in a padded text. Each begins with no filler and passes over blanks
between its parts, so padding does not show to any of them. -/

namespace BigO.Braced

open Pattern Reader

/-! ### Names -/

theorem isNamePart_of_isFiller {c : CodePoint} (hc : c.isFiller = true) :
    isNamePart c = false := by
  rw [isNamePart, CodePoint.isWord_of_isFiller hc, CodePoint.isFiller_ne (by decide) hc]
  rfl

theorem isNamePart_of_isNameStart {c : CodePoint} (hc : isNameStart c = true) :
    isNamePart c = true := by
  rw [isNameStart, Bool.or_eq_true, Bool.or_eq_true, decide_eq_true_eq, decide_eq_true_eq] at hc
  rcases hc with (hletter | rfl) | rfl
  · rw [isNamePart, CodePoint.isWord_of_isLetter hletter]
    rfl
  · decide
  · decide

theorem isNameStart_of_isFiller {c : CodePoint} (hc : c.isFiller = true) :
    isNameStart c = false := by
  rw [Bool.eq_false_iff]
  intro hstart
  have hpart := isNamePart_of_isNameStart hstart
  rw [isNamePart_of_isFiller hc] at hpart
  cases hpart

theorem steady_name : name.Steady :=
  (steady_one fun _ => isNameStart_of_isFiller).bind fun first =>
    (tracks_solidRun fun _ => isNamePart_of_isFiller).bind fun rest => tracks_pure (first :: rest)

theorem tracks_typeArguments : typeArguments.Tracks Eq :=
  (tracks_char (by decide)).bind fun _ =>
    (tracks_runAtMost (by decide) typeArgumentLimit).andThen <|
      (tracks_char (by decide)).bind fun _ => tracks_blanks.andThen (tracks_pure ())

theorem tracks_beforeParenthesis : beforeParenthesis.Tracks Eq :=
  tracks_blanks.andThen tracks_typeArguments.optional

theorem steady_declaration : declaration.Steady := by
  refine steady_after ((steady_exactly (by decide)).bind fun _ => ?_) wordStart
  refine (tracks_run fun _ => by decide).andThen (steady_name.tracks.bind fun declared => ?_)
  exact tracks_beforeParenthesis.bind fun _ =>
    (tracks_char (by decide)).bind fun _ => tracks_pure declared

theorem steady_call : call.Steady := by
  refine steady_after (steady_name.bind fun called => ?_) nameStart
  exact tracks_blanks.andThen ((tracks_char (by decide)).bind fun _ => tracks_pure called)

theorem steady_callSite : callSite.Steady := by
  refine steady_after (steady_name.bind fun called => ?_) nameStart
  exact tracks_beforeParenthesis.bind fun _ =>
    (tracks_char (by decide)).bind fun _ => tracks_pure called

/-! ### The middle of a range -/

theorem steady_shiftByOne : shiftByOne.Steady := by
  refine steady_anywhere ((steady_exactly (by decide)).bind fun _ => ?_)
  refine (tracks_char (by decide)).optional.bind fun _ => tracks_blanks.andThen ?_
  exact (tracks_char (by decide)).bind fun _ =>
    tracks_notBefore fun _ => CodePoint.isWord_of_isFiller

theorem steady_midAssignment : midAssignment.Steady := by
  refine steady_after ((steady_exactly (by decide)).bind fun _ => tracks_blanks.andThen ?_) _
  exact (tracks_char (by decide)).bind fun _ =>
    tracks_notBefore fun _ => CodePoint.isFiller_ne (by decide)

theorem steady_floorCall : floorCall.Steady := steady_anywhere (steady_textCall (by decide))

theorem steady_halved : halved.Steady := by
  refine steady_anywhere ((steady_char (by decide)).bind fun _ => tracks_blanks.andThen ?_)
  refine (tracks_char (by decide)).bind fun _ => tracks_blanks.andThen ?_
  exact (tracks_char (by decide)).bind fun _ => tracks_pure ()

/-! ### Storage -/

theorem steady_methodCall {method : String} (h : (text ("." ++ method)).IsSolid) :
    (methodCall method).Steady := steady_anywhere (steady_textCall h)

theorem steady_construction {type : String} (h : (text type).IsSolid) :
    (construction type).Steady := by
  refine steady_anywhere ((steady_exactly (by decide)).bind fun _ => ?_)
  exact tracks_blanks1 (steady_textCall h).tracks (steady_textCall h).begins

theorem steady_arraySpread : arraySpread.Steady := by
  refine steady_anywhere ((steady_char (by decide)).bind fun _ => tracks_blanks.andThen ?_)
  exact (tracks_exactly (by decide)).bind fun _ => tracks_pure ()

theorem steady_emptyArrayAssignment : emptyArrayAssignment.Steady := by
  refine steady_after ((steady_char (by decide)).bind fun _ => ?_) _
  refine (tracks_notBefore fun _ => CodePoint.isFiller_ne (by decide)).bind fun _ => ?_
  refine tracks_blanks.andThen ((tracks_char (by decide)).bind fun _ => tracks_blanks.andThen ?_)
  exact (tracks_char (by decide)).bind fun _ => tracks_pure ()

theorem steady_growingStorage : ∀ p ∈ growingStorage, p.Steady := by
  simp only [growingStorage, List.forall_mem_cons, List.not_mem_nil, false_implies, implies_true,
    and_true]
  exact ⟨steady_construction (by decide), steady_construction (by decide), steady_arraySpread,
    steady_methodCall (by decide), steady_methodCall (by decide), steady_construction (by decide),
    steady_emptyArrayAssignment⟩

/-- The space is the same where the same ways of taking storage occur. -/
theorem estimateSpace_congr {t t' : Text}
    (h : ∀ p ∈ growingStorage, p.occursIn t = p.occursIn t') (recursive : Bool) :
    estimateSpace t recursive = estimateSpace t' recursive := by
  have hany := congrArg (List.any · id) (List.map_congr_left h)
  simp only [List.any_map] at hany
  change growingStorage.any (·.occursIn t) = growingStorage.any (·.occursIn t') at hany
  rw [estimateSpace, estimateSpace, hany]

/-! ### Keywords and decisions -/

theorem steady_loopWord : loopWord.Steady := steady_wholeWord _

theorem steady_whileWord : whileWord.Steady := steady_wholeWord _

theorem steady_decisionPoint : decisionPoint.Steady := by
  refine (steady_wholeWord _).orElse (steady_anywhere ?_)
  exact (steady_exactly (by decide)).orElse (steady_exactly (by decide))

end BigO.Braced
