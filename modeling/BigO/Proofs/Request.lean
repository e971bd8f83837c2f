import BigO.Analysis
import BigO.Proofs.Text.Lower
import BigO.Proofs.Validation
import BigO.Request

/-! What a request for an analysis carries, and that the normal form of a tag asks for the same
reading as the tag. The reading is told by stripping the tag and lower-casing it, and so is the
normal form, so on the normal form both are done twice. The second time they find neither blanks at
the ends nor capital letters of ASCII. What they could still change are letters outside of ASCII,
and of these only the kelvin sign becomes a letter of ASCII, which is none of those of `python`. -/

namespace BigO

namespace AnalyzeRequest

variable {codeLimit : Int} {members : List (Text × Json)} {code language : Text}

/-- A tag is brought to lower case, or is the default where nothing of it is left. -/
theorem normalLanguage_cases (tag : Text) :
    tag.strip.lower = [] ∧ normalLanguage tag = defaultLanguage ∨
      tag.strip.lower ≠ [] ∧ normalLanguage tag = tag.strip.lower := by
  rw [normalLanguage]
  cases htag : tag.strip.lower with
  | nil => exact Or.inl ⟨rfl, rfl⟩
  | cons c rest => exact Or.inr ⟨List.cons_ne_nil c rest, rfl⟩

theorem checkCode_eq_valid {value : Json} :
    checkCode codeLimit value = .valid code ↔ value = .str code ∧ code.length ≤ codeLimit := by
  cases value with
  | str t =>
    by_cases ht : codeLimit < t.length
    · simp only [checkCode, Check.asText, Checked.andThen, if_pos ht, Checked.flaw_ne_valid,
        false_iff, not_and]
      intro hcode
      cases hcode
      omega
    · simp only [checkCode, Check.asText, Checked.andThen, if_neg ht, Checked.valid.injEq,
        Json.str.injEq]
      constructor
      · rintro rfl
        exact ⟨rfl, by omega⟩
      · exact And.left
  | _ => simp [checkCode, Check.asText, Checked.andThen, Checked.flaw]

theorem checkLanguage_str {tag : Text} (hformed : tag.wellFormed = true)
    (hlength : tag.length ≤ languageLimit) :
    checkLanguage (.str tag) = .valid (normalLanguage tag) := by
  simp only [checkLanguage, Check.asText, Checked.andThen, hformed, Bool.not_true,
    Bool.false_eq_true, if_false, Nat.not_lt.mpr hlength]

/-- The members of a request with a source text, and with a tag if there is one. -/
theorem ofMembers_of_members {tag : Option Text}
    (hcode : Json.member? members (text "code") = some (.str code))
    (hlength : code.length ≤ codeLimit)
    (hlanguage : Json.member? members (text "language") = tag.map Json.str)
    (htag : ∀ t ∈ tag, t.wellFormed = true ∧ t.length ≤ languageLimit) :
    ofMembers codeLimit members =
      .valid { code, language := (tag.map normalLanguage).getD defaultLanguage } := by
  apply Checked.seq_eq_valid.mpr
  refine ⟨AnalyzeRequest.mk code, _, Checked.map_eq_valid.mpr ⟨code, ?_, rfl⟩, ?_, rfl⟩
  · exact Check.required_eq_valid.mpr ⟨_, hcode, checkCode_eq_valid.mpr ⟨rfl, hlength⟩⟩
  · apply Check.optional_eq_valid.mpr
    cases tag with
    | none => exact Or.inr ⟨hlanguage, rfl⟩
    | some t =>
      obtain ⟨hformed, hshort⟩ := htag t rfl
      exact Or.inl ⟨_, hlanguage, checkLanguage_str hformed hshort⟩

end AnalyzeRequest

/-- The default tag asks for the braced reading. -/
theorem Layout.ofTag_defaultLanguage : ofTag AnalyzeRequest.defaultLanguage = .braced := by
  decide +kernel

/-- Stripping and lower-casing a second time leads to `python` from nothing else. -/
theorem Text.strip_lower_twice_eq_python_iff (tag : Text) :
    tag.strip.lower.strip.lower = text "python" ↔ tag.strip.lower = text "python" := by
  rw [Text.strip_lower_strip]
  constructor
  · intro htwice
    have hletters : ∀ d ∈ text "python", d.val < 0x80 ∧ d.val ≠ 0x6B := by decide
    rw [← htwice] at hletters
    rw [← Text.lower_eq_self (fun c hc => Text.isCapital_of_mem_lower hc) hletters]
    exact htwice
  · intro honce
    rw [honce]
    decide +kernel

/-- The normal form of a tag asks for the same reading as the tag. -/
theorem Layout.ofTag_normalLanguage (tag : Text) :
    ofTag (AnalyzeRequest.normalLanguage tag) = ofTag tag := by
  rcases AnalyzeRequest.normalLanguage_cases tag with ⟨hnone, hdefault⟩ | ⟨-, hlowered⟩
  · have hother : tag.strip.lower ≠ text "python" := by
      rw [hnone]
      decide
    rw [hdefault, Layout.ofTag_defaultLanguage, Layout.ofTag, if_neg hother]
  · rw [hlowered, Layout.ofTag, Layout.ofTag]
    simp only [Text.strip_lower_twice_eq_python_iff]

/-- The estimate is the same under the normal form of the tag. -/
theorem analyze_normalLanguage (code tag : Text) :
    analyze code (AnalyzeRequest.normalLanguage tag) = analyze code tag := by
  rw [analyze, analyze, Layout.ofTag_normalLanguage]

end BigO
