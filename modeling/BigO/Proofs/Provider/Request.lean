import BigO.Proofs.Json.Writing
import BigO.Provider.Rail
import BigO.Report.Prompt

/-! When a request can be written. The numbers of a provider given as finite, nothing but a lone
surrogate stands in the way: in the model, or in the texts of the messages. -/

namespace BigO

namespace Unencodable

theorem runFrom_eq_none_iff {bad : CodePoint → Bool} {place : Nat} {t : Text} :
    runFrom bad place t = none ↔ ∀ c ∈ t, bad c = false := by
  induction t generalizing place with
  | nil => simp [runFrom]
  | cons c t ih =>
      rw [runFrom, List.forall_mem_cons]
      split
      next hbad => simp [hbad]
      next hbad => rw [ih, and_iff_right (Bool.eq_false_iff.mpr hbad)]

/-- What comes behind a text, and has no code point of the class, does not change its first run. -/
theorem runFrom_append {bad : CodePoint → Bool} {place : Nat} {s t : Text}
    (h : ∀ c ∈ t, bad c = false) : runFrom bad place (s ++ t) = runFrom bad place s := by
  have hnone : t.takeWhile bad = [] := by
    cases t with
    | nil => rfl
    | cons c t =>
      rw [List.takeWhile_cons_of_neg]
      exact Bool.eq_false_iff.mp (h c List.mem_cons_self)
  induction s generalizing place with
  | nil => exact runFrom_eq_none_iff.mpr h
  | cons c s ih =>
    have htake : (s ++ t).takeWhile bad = s.takeWhile bad := by
      rw [List.takeWhile_append, hnone, List.append_nil]
      split
      case isTrue hall => exact ((List.takeWhile_prefix bad).eq_of_length hall).symm
      case isFalse => rfl
    rw [List.cons_append, runFrom, runFrom, htake, ih]

theorem inUtf8_append {s t : Text} (h : t.wellFormed = true) : inUtf8 (s ++ t) = inUtf8 s := by
  rw [inUtf8, inUtf8, runFrom_append (Text.wellFormed_iff.mp h)]

theorem inUtf8_eq_none_iff {t : Text} : inUtf8 t = none ↔ t.wellFormed = true := by
  rw [inUtf8, Option.map_eq_none_iff, runFrom_eq_none_iff, Text.wellFormed_iff]

theorem inAscii_eq_none_iff {t : Text} : inAscii t = none ↔ ∀ c ∈ t, c.val < 0x80 := by
  rw [inAscii, Option.map_eq_none_iff, runFrom_eq_none_iff]
  refine forall₂_congr fun c _ => ?_
  rw [decide_eq_false_iff_not, Nat.not_le]

end Unencodable

/-- The number is neither infinite nor no number at all. -/
def Number.isFinite : Number → Bool
  | .int _ => true
  | .float x => x.isFinite

namespace Json

@[simp] theorem allFinite_num (n : Number) : (Json.num n).allFinite = n.isFinite := by
  cases n <;> rfl

@[simp] theorem allFinite_str (t : Text) : (Json.str t).allFinite = true := rfl

@[simp] theorem allFinite_obj (members : List (Text × Json)) :
    (Json.obj members).allFinite = allFiniteMembers members := rfl

@[simp] theorem allFiniteMembers_cons (name : Text) (value : Json) (members : List (Text × Json)) :
    allFiniteMembers ((name, value) :: members) =
      (value.allFinite && allFiniteMembers members) := rfl

@[simp] theorem allFiniteMembers_nil : allFiniteMembers [] = true := rfl

end Json

namespace Provider

/-- The numbers in the bodies of requests are finite. -/
def HasFiniteNumbers (p : Provider) : Prop :=
  p.maxTokens.isFinite = true ∧ p.temperature.isFinite = true

/-- The key can be sent in a header field. -/
def HasAsciiKey (p : Provider) : Prop := ∀ c ∈ p.apiKey, c.val < 0x80

/-- Messages that can be sent: their numbers are finite and their texts have an encoding. -/
def IsSendable (messages : Json) : Prop :=
  messages.allFinite = true ∧ (messages.write .compact).wellFormed = true

variable {p : Provider} {authorization model : Text} {messages : Json}

theorem inAscii_authorization : Unencodable.inAscii p.authorization = none ↔ p.HasAsciiKey := by
  have hfront : ∀ c ∈ text "Bearer ", c.val < 0x80 := by decide
  rw [Unencodable.inAscii_eq_none_iff, authorization, HasAsciiKey]
  exact List.forall_mem_append.trans (and_iff_right hfront)

theorem allFinite_body :
    (p.body model messages).allFinite = true ↔
      messages.allFinite = true ∧ p.HasFiniteNumbers := by
  rw [body, HasFiniteNumbers]
  simp only [Json.allFinite_obj, Json.allFiniteMembers_cons, Json.allFinite_str,
    Json.allFinite_num, Json.string, Json.allFiniteMembers_nil, Bool.true_and, Bool.and_true,
    Bool.and_eq_true]

theorem wellFormed_write_body :
    ((p.body model messages).write .compact).wellFormed = true ↔
      model.wellFormed = true ∧ (messages.write .compact).wellFormed = true := by
  rw [body]
  simp only [Json.write, Json.writeMembers, Json.string, Json.Spacing.compact,
    Text.wellFormed_append, Text.wellFormed_text, Json.wellFormed_quote,
    Json.wellFormed_writeNumber, Bool.true_and, Bool.and_true, Bool.and_eq_true]

theorem requestFor_eq_ok (hfinite : p.HasFiniteNumbers) (hmodel : model.wellFormed = true)
    (hmessages : IsSendable messages) :
    p.requestFor authorization model messages =
      .ok { model, authorization, body := p.body model messages } := by
  have hnumbers : (p.body model messages).allFinite = true :=
    allFinite_body.mpr ⟨hmessages.1, hfinite⟩
  have hutf8 := Unencodable.inUtf8_eq_none_iff.mpr
    ((wellFormed_write_body (p := p)).mpr ⟨hmodel, hmessages.2⟩)
  simp only [requestFor, hnumbers, hutf8, Bool.not_true, Bool.false_eq_true, if_false]

theorem requestFor_eq_error (hfinite : p.HasFiniteNumbers) (hnumbers : messages.allFinite = true)
    (h : ¬ (model.wellFormed = true ∧ (messages.write .compact).wellFormed = true)) :
    ∃ what, p.requestFor authorization model messages = .error (.unencodable what) := by
  have hnumbers : (p.body model messages).allFinite = true :=
    allFinite_body.mpr ⟨hnumbers, hfinite⟩
  rw [← wellFormed_write_body (p := p), ← Unencodable.inUtf8_eq_none_iff] at h
  obtain ⟨what, hutf8⟩ := Option.ne_none_iff_exists'.mp h
  exact ⟨what, by simp only [requestFor, hnumbers, hutf8, Bool.not_true, Bool.false_eq_true,
    if_false]⟩

/-! ### Questions -/

theorem allFinite_chat (instructions question : Text) :
    (chat instructions question).allFinite = true := rfl

theorem wellFormed_write_chat (instructions question : Text) :
    ((chat instructions question).write .compact).wellFormed =
      (instructions.wellFormed && question.wellFormed) := by
  rw [chat]
  simp only [Json.write, Json.writeItems, Json.writeMembers, Json.string, Json.Spacing.compact,
    Text.wellFormed_append, Text.wellFormed_text, Json.wellFormed_quote, Bool.true_and,
    Bool.and_true]

end Provider

namespace Prompt

@[simp] theorem wellFormed_question (code : Text) : (question code).wellFormed = code.wellFormed := by
  simp only [question, Text.wellFormed_append, Text.wellFormed_text, Bool.true_and, Bool.and_true]

@[simp] theorem wellFormed_instructions (language : Text) :
    (instructions language).wellFormed = language.wellFormed := by
  unfold instructions
  simp only [Text.wellFormed_append, Text.wellFormed_text]
  cases language.wellFormed <;> rfl

end Prompt

end BigO
