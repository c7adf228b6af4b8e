import ParameterTemplates.Proofs.Classification
import ParameterTemplates.Proofs.Literal

/-! Choices on whether a parameter equals a text in quotes. The reader of literals takes the
outermost quotes as the ends of the text, the search for a question mark takes the first ones that
no backslash precedes, and where the two part a choice is read as an equality. -/
namespace ParameterTemplates
namespace Template
open Text

/-- The comparison of a parameter with a text, single blanks around each part. -/
def equalityText (name body : Text) : Text :=
  openMark ++ [' '] ++ referTo name ++ [' '] ++ ['=', '='] ++ [' '] ++ body ++ [' '] ++ closeMark

/-- A right side with two branches behind it. -/
def choiceBody (rhs x y : Text) : Text := rhs ++ [' ', '?', ' '] ++ x ++ [' ', ':', ' '] ++ y

theorem of_written_equality {name s expression : Text}
    (h : Written (.equality name (inQuotes s)) expression) :
    IsName name ∧ '\n' ∉ inQuotes s ∧ hasOpenQuestion (inQuotes s) = false := by
  generalize hrhs : inQuotes s = rhs at h
  cases h with
  | equality hn _ _ hbody hopen =>
    cases hbody with
    | trimmed _ _ _ _ _ hline => exact ⟨hn, hline, hopen⟩
    | blank => simp [inQuotes] at hrhs

theorem solidHead_inQuotes (s t : Text) : SolidHead (inQuotes s ++ t) :=
  solidHead_cons.mpr (by decide)

theorem IsOperand.solidLast_choiceBody {y : Text} (hy : IsOperand y) (rhs x : Text) :
    SolidLast (choiceBody rhs x y) := (solidLast_append _ hy.ne_nil).mpr hy.solidLast

theorem trim_choiceBody {y : Text} (hy : IsOperand y) (s x : Text) :
    trim ([' '] ++ choiceBody (inQuotes s) x y ++ [' ']) = choiceBody (inQuotes s) x y := by
  have hhead : SolidHead (choiceBody (inQuotes s) x y) := by
    simp only [choiceBody, List.append_assoc]
    exact solidHead_inQuotes s _
  exact trim_eq (by decide) hhead (hy.solidLast_choiceBody _ x) (by simp [choiceBody]) (by decide)

/-- Of two branches behind a text in quotes the text makes a choice or an equality, by whether the
search finds a question mark. -/
theorem of_written_choiceBody {name s x y : Text} {shape : Shape} (hn : IsName name)
    (hy : IsOperand y)
    (h : Written shape (equalityText name (choiceBody (inQuotes s) x y))) :
    (shape = .equality name (choiceBody (inQuotes s) x y) ∧
      '\n' ∉ choiceBody (inQuotes s) x y ∧
      hasOpenQuestion (choiceBody (inQuotes s) x y) = false) ∨
    ((∃ rhs t e, shape = .ternary name rhs t e) ∧
      hasOpenQuestion (choiceBody (inQuotes s) x y) = true) := by
  have htext : equalityText name (choiceBody (inQuotes s) x y) =
      openMark ++ ([' '] ++ referTo name ++ [' '] ++
        (['=', '='] ++ ([' '] ++ choiceBody (inQuotes s) x y ++ [' ']))) ++ closeMark := by
    simp [equalityText]
  have hafter := h.after_comparison ⟨[' '], [' '], hn, by decide, by decide, htext⟩
  have hquestion : '?' ∈ [' '] ++ choiceBody (inQuotes s) x y ++ [' '] := by simp [choiceBody]
  rw [← trim_choiceBody hy s x]
  rcases hafter.of_foreign hquestion isForeign_question with h | ⟨⟨rhs, t, e, rfl, -⟩, hopen⟩
  · exact .inl h
  · exact .inr ⟨⟨rhs, t, e, rfl⟩, hopen⟩

theorem written_equality_choiceBody {name s x y : Text} (hn : IsName name) (hy : IsOperand y)
    (hline : '\n' ∉ choiceBody (inQuotes s) x y)
    (hopen : hasOpenQuestion (choiceBody (inQuotes s) x y) = false) :
    Written (.equality name (choiceBody (inQuotes s) x y))
      (equalityText name (choiceBody (inQuotes s) x y)) := by
  have hbody : IsRightSide ([' '] ++ choiceBody (inQuotes s) x y ++ [' '])
      (choiceBody (inQuotes s) x y) := by
    have htrim := trim_choiceBody hy s x
    rw [← rightSide?_eq_some_iff, rightSide?_of_trim (by rw [htrim]; simp [choiceBody]), htrim,
      if_neg hline]
  have hwritten := Written.equality hn (a := [' ']) (b := [' ']) (by decide) (by decide) hbody hopen
  simpa [equalityText] using hwritten

/-- Two branches behind a text in quotes are read as an equality exactly when neither a line end
nor an open question mark keeps them from it. -/
theorem classify?_choiceBody_eq_equality_iff {name s x y : Text} (hn : IsName name)
    (hy : IsOperand y) :
    classify? (equalityText name (choiceBody (inQuotes s) x y)) =
        some (.equality name (choiceBody (inQuotes s) x y)) ↔
      '\n' ∉ choiceBody (inQuotes s) x y ∧
        hasOpenQuestion (choiceBody (inQuotes s) x y) = false := by
  constructor
  · intro h
    rcases of_written_choiceBody hn hy (written_of_classify? h) with ⟨-, h⟩ | ⟨⟨_, _, _, h⟩, -⟩
    · exact h
    · contradiction
  · rintro ⟨hline, hopen⟩
    have hwritten := written_equality_choiceBody hn hy hline hopen
    cases hs : classify? (equalityText name (choiceBody (inQuotes s) x y)) with
    | none => exact absurd hwritten (classify?_eq_none_iff.mp hs _)
    | some shape =>
      rcases of_written_choiceBody hn hy (written_of_classify? hs) with ⟨rfl, -⟩ | ⟨-, h⟩
      · rfl
      · rw [hopen] at h
        contradiction

/-- After its quotes a text leaves the search in a string or outside of strings. -/
theorem after_inQuotes (s : Text) : ScanMode.outside.after (inQuotes s) = .inside ∨
    ScanMode.outside.after (inQuotes s) = .outside := by
  rw [inQuotes, ScanMode.after_append]
  cases ScanMode.outside.after ('"' :: s) with
  | outside => exact .inl rfl
  | inside => exact .inr rfl
  | escaping => exact .inl rfl

theorem hasOpenQuestion_choiceBody {rhs : Text} (h : IsBlocks rhs) (x y : Text) :
    hasOpenQuestion (choiceBody rhs x y) = true := by
  have hblank : IsBlocks (rhs ++ [' ']) := h.append (by decide)
  exact hasOpenQuestion_iff.mpr ⟨rhs ++ [' '], [' '] ++ x ++ [' ', ':', ' '] ++ y, hblank,
    by simp [choiceBody]⟩

/-- Where the search is left in a string, two empty strings bring it back into one. -/
theorem hasOpenQuestion_choiceBody_empty {s : Text} (hq : hasOpenQuestion (inQuotes s) = false)
    (hs : ¬IsBlocks (inQuotes s)) :
    hasOpenQuestion (choiceBody (inQuotes s) (inQuotes []) (inQuotes [])) = false := by
  have hinside : ScanMode.outside.after (inQuotes s) = .inside :=
    (after_inQuotes s).resolve_right fun h => hs (ScanMode.after_eq_outside_iff.mp h)
  rw [hasOpenQuestion_eq_finds] at hq
  simp only [choiceBody, List.append_assoc]
  rw [hasOpenQuestion_eq_finds, ScanMode.finds_append, hq, hinside]
  decide

theorem exists_choiceBody_eq_inQuotes {y : Text} (hy : IsQuotedOperand y) (s x : Text) :
    ∃ t, choiceBody (inQuotes s) x y = inQuotes t := by
  obtain ⟨body, -, rfl⟩ := hy
  exact ⟨s ++ ['"', ' ', '?', ' '] ++ x ++ [' ', ':', ' ', '"'] ++ body,
    by simp [choiceBody, inQuotes]⟩

theorem choiceBody_ne_inQuotes {y : Text} (hy : IsBareOperand y) (rhs x t : Text) :
    choiceBody rhs x y ≠ inQuotes t := by
  intro h
  have hlast := congrArg List.getLast? h
  rw [choiceBody, inQuotes, List.getLast?_append_of_ne_nil _ hy.nonempty,
    List.getLast?_append_of_ne_nil _ (by simp)] at hlast
  have hbare := hy.bare '"' (List.mem_of_getLast? (by rw [hlast]; rfl))
  exact absurd hbare (by decide)

end Template

open Template

/-- The expression is read as a choice or not at all. -/
def IsChoiceOrRefused (expression : Text) : Prop :=
  (∃ name rhs x y, (classify expression).outcome = .ok (.ternary name rhs x y)) ∨
    (classify expression).outcome = .error (.structural expression .unsupported)

/-- Where a string is wanted, no table gives the expression a truth value. -/
def IsNeverBoolean (expression : Text) : Prop :=
  ∀ table v, (resolve table .string expression).outcome ≠ .ok (.boolean v)

theorem reference?_inQuotes (s : Text) : reference? (inQuotes s) = none :=
  reference?_eq_none (by simp [inQuotes]) isForeign_quote

theorem Literal.coerce_inQuotes (s : Text) :
    Literal.coerce .string (inQuotes s) = .ok (.string s) :=
  Literal.coerce_eq_ok_iff.mpr
    ⟨reference?_inQuotes s, Literal.string?_eq_some_iff.mpr ⟨s, rfl, rfl⟩⟩

theorem Literal.coerce_choiceBody_ne_ok {y : Text} (hy : IsBareOperand y) (s x : Text)
    (type : ValueType) (v : Scalar) :
    Literal.coerce type (choiceBody (inQuotes s) x y) ≠ .ok v := by
  intro h
  obtain ⟨-, hread⟩ := Literal.coerce_eq_ok_iff.mp h
  have hquote : '"' ∈ choiceBody (inQuotes s) x y := by simp [choiceBody, inQuotes]
  obtain ⟨-, t, ht, -⟩ := Literal.inQuotes_of_read? hread hquote (by decide)
  exact choiceBody_ne_inQuotes hy _ x t ht

/-- A table in which every parameter is the empty string. -/
def emptyStrings : Table := fun _ => some (.ofScalar (.string []))

theorem evaluateEquality_emptyStrings (name s : Text) :
    ∃ c, (evaluateEquality emptyStrings name (inQuotes s)).outcome = .ok c :=
  ⟨_, evaluateEquality_eq_ok_iff.mpr ⟨.ofScalar (.string []), .string, .string [], .string s, rfl,
    rfl, rfl, Literal.coerce_inQuotes s, rfl⟩⟩

theorem isChoiceOrRefused_iff {name s x y : Text} (hn : IsName name) (hy : IsOperand y) :
    IsChoiceOrRefused (equalityText name (choiceBody (inQuotes s) x y)) ↔
      classify? (equalityText name (choiceBody (inQuotes s) x y)) ≠
        some (.equality name (choiceBody (inQuotes s) x y)) := by
  unfold IsChoiceOrRefused
  simp only [classify_eq_ok_iff, classify_eq_error_iff]
  cases hs : classify? (equalityText name (choiceBody (inQuotes s) x y)) with
  | none => simp
  | some shape =>
    rcases of_written_choiceBody hn hy (written_of_classify? hs) with
      ⟨rfl, -⟩ | ⟨⟨rhs, t, e, rfl⟩, -⟩
    · simp
    · simp

/-- A truth value comes of an equality whose right side ends with a quote, and of nothing else. -/
theorem isNeverBoolean_iff {name s x y : Text} (hn : IsName name) (hy : IsOperand y) :
    IsNeverBoolean (equalityText name (choiceBody (inQuotes s) x y)) ↔
      IsChoiceOrRefused (equalityText name (choiceBody (inQuotes s) x y)) ∨ IsBareOperand y := by
  constructor
  · intro h
    by_contra hnot
    rw [not_or, isChoiceOrRefused_iff hn hy, not_not] at hnot
    obtain ⟨hs, hbare⟩ := hnot
    obtain ⟨t, ht⟩ := exists_choiceBody_eq_inQuotes (hy.resolve_right hbare) s x
    obtain ⟨c, hc⟩ := evaluateEquality_emptyStrings name t
    refine h emptyStrings c ?_
    rw [resolve_outcome, hs, ht]
    exact evaluate_equality_eq_ok_iff.mpr ⟨c, hc, rfl⟩
  · rintro (h | hbare) table v hv
    · rcases h with ⟨_, _, _, _, h⟩ | h
      · have htype : ValueType.boolean = .string :=
          type_of_resolve_ternary (classify_eq_ok_iff.mp h) hv
        contradiction
      · rw [resolve_outcome, classify_eq_error_iff.mp h] at hv
        contradiction
    · rw [resolve_outcome] at hv
      split at hv
      · next shape hs =>
        rcases of_written_choiceBody hn hy (written_of_classify? hs) with
          ⟨rfl, -⟩ | ⟨⟨rhs, t, e, rfl⟩, -⟩
        · obtain ⟨c, hc, -⟩ := evaluate_equality_eq_ok_iff.mp hv
          obtain ⟨p, type, left, right, -, -, -, hright, -⟩ := evaluateEquality_eq_ok_iff.mp hc
          exact Literal.coerce_choiceBody_ne_ok hbare s x type right hright
        · have htype : ValueType.boolean = .string := type_of_evaluateTernary hv
          contradiction
      · contradiction

section Guard

variable {name s : Text}

/-- A line end or an open question mark keeps the branches from the text before them. -/
theorem isChoiceOrRefused_choiceBody_iff (hn : IsName name) (hline : '\n' ∉ inQuotes s) (x : Text)
    {y : Text} (hy : IsOperand y) :
    IsChoiceOrRefused (equalityText name (choiceBody (inQuotes s) x y)) ↔
      '\n' ∈ x ∨ '\n' ∈ y ∨ hasOpenQuestion (choiceBody (inQuotes s) x y) = true := by
  have hmem : '\n' ∈ choiceBody (inQuotes s) x y ↔ '\n' ∈ x ∨ '\n' ∈ y := by
    simp [choiceBody, hline]
  rw [isChoiceOrRefused_iff hn hy, Ne, classify?_choiceBody_eq_equality_iff hn hy, hmem,
    not_and_or, not_not, Bool.not_eq_false, or_assoc]

theorem isNeverBoolean_choiceBody_iff (hn : IsName name) (hline : '\n' ∉ inQuotes s) (x : Text)
    {y : Text} (hy : IsOperand y) :
    IsNeverBoolean (equalityText name (choiceBody (inQuotes s) x y)) ↔
      '\n' ∈ x ∨ '\n' ∈ y ∨ hasOpenQuestion (choiceBody (inQuotes s) x y) = true ∨
        IsBareOperand y := by
  rw [isNeverBoolean_iff hn hy, isChoiceOrRefused_choiceBody_iff hn hline x hy, or_assoc, or_assoc]

theorem isChoiceOrRefused_of_isBlocks (hn : IsName name) (hline : '\n' ∉ inQuotes s)
    (hs : IsBlocks (inQuotes s)) (x : Text) {y : Text} (hy : IsOperand y) :
    IsChoiceOrRefused (equalityText name (choiceBody (inQuotes s) x y)) :=
  (isChoiceOrRefused_choiceBody_iff hn hline x hy).mpr
    (.inr (.inr (hasOpenQuestion_choiceBody hs x y)))

theorem isNeverBoolean_of_isBlocks (hn : IsName name) (hline : '\n' ∉ inQuotes s)
    (hs : IsBlocks (inQuotes s)) (x : Text) {y : Text} (hy : IsOperand y) :
    IsNeverBoolean (equalityText name (choiceBody (inQuotes s) x y)) :=
  (isNeverBoolean_iff hn hy).mpr (.inl (isChoiceOrRefused_of_isBlocks hn hline hs x hy))

/-- Two empty strings as branches tell whether the search is left in a string. -/
theorem isBlocks_of_isNeverBoolean (hn : IsName name) (hline : '\n' ∉ inQuotes s)
    (hclosed : hasOpenQuestion (inQuotes s) = false)
    (h : IsNeverBoolean (equalityText name (choiceBody (inQuotes s) (inQuotes []) (inQuotes [])))) :
    IsBlocks (inQuotes s) := by
  by_contra hs
  have hempty : IsOperand (inQuotes []) := by decide
  rcases (isNeverBoolean_choiceBody_iff hn hline _ hempty).mp h with h | h | h | h
  · exact absurd h (by decide)
  · exact absurd h (by decide)
  · rw [hasOpenQuestion_choiceBody_empty hclosed hs] at h
    contradiction
  · exact absurd (h.bare '"' (by decide)) (by decide)

end Guard

/-- Two branches and their marks behind a text in quotes that an equality takes are kept from being
read as a part of the text exactly when a line end stands in them or an open question mark is
found, and this for all branches exactly when the text consists of complete strings and single
characters. -/
theorem string_condition_guarded_iff {name s : Text}
    (hs : (classify (equalityText name (inQuotes s))).outcome =
      .ok (.equality name (inQuotes s))) :
    Literal.coerce .string (inQuotes s) = .ok (.string s) ∧
    (∀ x y, IsOperand x → IsOperand y →
      (IsChoiceOrRefused (equalityText name (choiceBody (inQuotes s) x y)) ↔
        '\n' ∈ x ∨ '\n' ∈ y ∨ hasOpenQuestion (choiceBody (inQuotes s) x y) = true) ∧
      (IsNeverBoolean (equalityText name (choiceBody (inQuotes s) x y)) ↔
        '\n' ∈ x ∨ '\n' ∈ y ∨ hasOpenQuestion (choiceBody (inQuotes s) x y) = true ∨
          IsBareOperand y)) ∧
    ((∀ x y, IsOperand x → IsOperand y →
        IsChoiceOrRefused (equalityText name (choiceBody (inQuotes s) x y)) ∧
          IsNeverBoolean (equalityText name (choiceBody (inQuotes s) x y))) ↔
      IsBlocks (inQuotes s)) ∧
    ((∀ x y, IsOperand x → IsOperand y →
        IsNeverBoolean (equalityText name (choiceBody (inQuotes s) x y))) ↔
      IsBlocks (inQuotes s)) := by
  have hwritten := written_of_classify? (classify_eq_ok_iff.mp hs)
  obtain ⟨hn, hline, hclosed⟩ := of_written_equality hwritten
  have hempty : IsOperand (inQuotes []) := by decide
  refine ⟨Literal.coerce_inQuotes s, fun x y _ hy => ?_, ?_, ?_⟩
  · exact ⟨isChoiceOrRefused_choiceBody_iff hn hline x hy,
      isNeverBoolean_choiceBody_iff hn hline x hy⟩
  · constructor
    · intro h
      exact isBlocks_of_isNeverBoolean hn hline hclosed (h _ _ hempty hempty).2
    · intro h x y _ hy
      exact ⟨isChoiceOrRefused_of_isBlocks hn hline h x hy,
        isNeverBoolean_of_isBlocks hn hline h x hy⟩
  · constructor
    · intro h
      exact isBlocks_of_isNeverBoolean hn hline hclosed (h _ _ hempty hempty)
    · intro h x y _ hy
      exact isNeverBoolean_of_isBlocks hn hline h x hy

/-- Where the text ends with a backslash, not all branches are kept from it. -/
theorem string_condition_guarded_iff_backslash :
    (classify (equalityText ['a'] (inQuotes ['x', '\\']))).outcome =
      .ok (.equality ['a'] (inQuotes ['x', '\\'])) ∧
    ((∀ x y, IsOperand x → IsOperand y →
        IsNeverBoolean (equalityText ['a'] (choiceBody (inQuotes ['x', '\\']) x y))) ↔
      IsBlocks (inQuotes ['x', '\\'])) :=
  ⟨by decide, (string_condition_guarded_iff (by decide)).2.2.2⟩

/-- A backslash before the closing quote hides the question mark, and the choice is compared as
one text. -/
theorem backslash_condition_is_equality :
    (classify (equalityText ['a'] (inQuotes ['x', '\\']))).outcome =
      .ok (.equality ['a'] (inQuotes ['x', '\\'])) ∧
    IsOperand (inQuotes ['y']) ∧ IsOperand (inQuotes ['z']) ∧
    (classify (equalityText ['a']
      (choiceBody (inQuotes ['x', '\\']) (inQuotes ['y']) (inQuotes ['z'])))).outcome =
        .ok (.equality ['a']
          (choiceBody (inQuotes ['x', '\\']) (inQuotes ['y']) (inQuotes ['z']))) ∧
    (resolve (fun _ => some (.ofScalar (.string ['q']))) .string (equalityText ['a']
      (choiceBody (inQuotes ['x', '\\']) (inQuotes ['y']) (inQuotes ['z'])))).outcome =
        .ok (.boolean false) := by
  decide +kernel

end ParameterTemplates
