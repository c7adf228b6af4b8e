import ParameterTemplates.Proofs.Classification

/-! What an equality compares with: all that stands behind its sign but the blanks around it, or of
blanks alone the last one on a line. A reference is such a right side, and an equality with it is a
dual equality. -/
namespace ParameterTemplates.Template
open Text

/-- All of a text but blanks at its ends. -/
def IsTrimmed (core t : Text) : Prop :=
  SolidHead core ∧ SolidLast core ∧ ∃ a b, IsGap a ∧ IsGap b ∧ t = a ++ core ++ b

/-- The last character of a text that is no line end. -/
def IsLastInLine (c : Char) (t : Text) : Prop :=
  c ≠ '\n' ∧ ∃ a b, t = a ++ c :: b ∧ ∀ d ∈ b, d = '\n'

variable {expression name left right rhs body : Text}

theorem not_isGap_iff {t : Text} : ¬IsGap t ↔ ∃ c ∈ t, isBlank c = false := by
  simp [IsGap]

theorem not_isGap_of_solidHead (hn : rhs ≠ []) (h : SolidHead rhs) : ¬IsGap rhs := by
  obtain ⟨c, t, rfl⟩ := List.exists_cons_of_ne_nil hn
  exact not_isGap_iff.mpr ⟨c, by simp, solidHead_cons.mp h⟩

theorem isRightSide_iff : IsRightSide body rhs ↔ '\n' ∉ rhs ∧
    ((∃ c ∈ body, isBlank c = false) ∧ IsTrimmed rhs body ∨
      IsGap body ∧ ∃ c, rhs = [c] ∧ IsLastInLine c body) := by
  constructor
  · intro h
    cases h with
    | @trimmed a b _ ha hb hne hhead hlast hline =>
      obtain ⟨c, hc, hsolid⟩ := not_isGap_iff.mp (not_isGap_of_solidHead hne hhead)
      exact ⟨hline, .inl ⟨⟨c, by simp [hc], hsolid⟩, hhead, hlast, a, b, ha, hb, rfl⟩⟩
    | @blank a b c ha hc hn hb =>
      exact ⟨by simpa [eq_comm] using hn,
        .inr ⟨isGap_append_cons ha hc hb, c, rfl, hn, a, b, rfl, hb⟩⟩
  · rintro ⟨hline, ⟨hsolid, hhead, hlast, a, b, ha, hb, rfl⟩ | ⟨hgap, c, rfl, hn, a, b, rfl, hb⟩⟩
    · refine .trimmed ha hb ?_ hhead hlast hline
      rintro rfl
      refine not_isGap_iff.mpr hsolid ?_
      rw [List.append_nil]
      exact isGap_append.mpr ⟨ha, hb⟩
    · obtain ⟨ha, hc⟩ := isGap_append.mp hgap
      exact .blank ha (hc c (by simp)) hn hb

theorem IsRightSide.ne_nil (h : IsRightSide body rhs) : rhs ≠ [] := by
  cases h with
  | trimmed _ _ hne => exact hne
  | blank => simp

/-- A right side is blank where its body is. -/
theorem IsRightSide.isGap_iff (h : IsRightSide body rhs) : IsGap rhs ↔ IsGap body := by
  obtain ⟨-, ⟨hsolid, hhead, -⟩ | ⟨hgap, c, rfl, -, a, b, rfl, -⟩⟩ := isRightSide_iff.mp h
  · exact iff_of_false (not_isGap_of_solidHead h.ne_nil hhead) (not_isGap_iff.mpr hsolid)
  · refine iff_of_true (fun d hd => hgap d ?_) hgap
    simp_all

theorem written_equality_iff : Written (.equality name rhs) expression ↔
    ∃ body, Refers expression name (['=', '='] ++ body) ∧ IsRightSide body rhs ∧
      hasOpenQuestion rhs = false := by
  constructor
  · intro h
    obtain ⟨_, _, href, hw⟩ := written_iff.mp h
    cases hw with
    | equality hrhs hopen => exact ⟨_, href, hrhs, hopen⟩
  · rintro ⟨body, href, hrhs, hopen⟩
    exact written_iff.mpr ⟨_, _, href, .equality hrhs hopen⟩

theorem Written.isRightSide (h : Written (.equality name rhs) expression)
    (href : Refers expression name (['=', '='] ++ body)) : IsRightSide body rhs := by
  have hafter := h.after_comparison href
  generalize htext : ['=', '='] ++ body = rest at hafter
  cases hafter with
  | equality hrhs =>
    obtain rfl := List.append_cancel_left htext
    exact hrhs

theorem isBlank_eq_false_of_mem_referTo (hn : IsName name) {c : Char} (hc : c ∈ referTo name) :
    isBlank c = false := by
  rcases List.mem_append.mp hc with hc | hc
  · have hselector : selector.all (fun c => !isBlank c) = true := by decide
    simpa using List.all_eq_true.mp hselector c hc
  · exact isBlank_eq_false_of_isNameChar (hn.isNameChar c hc)

theorem reference?_referTo (hn : IsName name) : reference? (referTo name) = some name :=
  reference?_eq_some_iff.mpr ⟨[], [], isGap_nil, isGap_nil, hn, by simp⟩

theorem isRightSide_referTo {c d : Text} (hn : IsName name) (hc : IsGap c) (hd : IsGap d) :
    IsRightSide (c ++ referTo name ++ d) (referTo name) := by
  refine .trimmed hc hd ?_ (fun x hx => ?_) (fun x hx => ?_) fun hline => ?_
  · simp [referTo, selector_eq]
  · exact isBlank_eq_false_of_mem_referTo hn (List.mem_of_mem_head? hx)
  · exact isBlank_eq_false_of_mem_referTo hn (List.mem_of_mem_getLast? hx)
  · exact absurd (isBlank_eq_false_of_mem_referTo hn hline) (by decide)

theorem hasOpenQuestion_referTo (hn : IsName name) : hasOpenQuestion (referTo name) = false := by
  rw [Bool.eq_false_iff]
  intro h
  obtain ⟨p, q, -, hpq⟩ := hasOpenQuestion_iff.mp h
  have hnone : reference? (referTo name) = none :=
    reference?_eq_none (by rw [hpq]; simp) isForeign_question
  rw [reference?_referTo hn] at hnone
  contradiction

theorem Written.equality_referTo (h : Written (.dualEquality left right) expression) :
    IsName right ∧ Written (.equality left (referTo right)) expression := by
  obtain ⟨_, _, href, hw⟩ := written_iff.mp h
  cases hw with
  | @dualEquality right c d hn hc hd =>
    exact ⟨hn, written_equality_iff.mpr
      ⟨_, href, isRightSide_referTo hn hc hd, hasOpenQuestion_referTo hn⟩⟩

/-- A dual equality is an equality whose right side is a reference. -/
theorem written_dualEquality_iff : Written (.dualEquality left right) expression ↔
    ∃ rhs, Written (.equality left rhs) expression ∧ reference? rhs = some right := by
  constructor
  · intro h
    obtain ⟨hn, hw⟩ := h.equality_referTo
    exact ⟨referTo right, hw, reference?_referTo hn⟩
  · rintro ⟨rhs, hw, hr⟩
    obtain ⟨body, href, hrhs, -⟩ := written_equality_iff.mp hw
    obtain ⟨c, d, hc, hd, hn, rfl⟩ := reference?_eq_some_iff.mp hr
    rcases isRightSide_iff.mp hrhs with ⟨-, ⟨-, -, -, a, b, ha, hb, rfl⟩ | ⟨hgap, -⟩⟩
    · have hbody : a ++ (c ++ referTo right ++ d) ++ b =
          (a ++ c) ++ referTo right ++ (d ++ b) := by
        simp
      rw [hbody] at href
      exact written_iff.mpr ⟨_, _, href,
        .dualEquality hn (isGap_append.mpr ⟨ha, hc⟩) (isGap_append.mpr ⟨hd, hb⟩)⟩
    · have hblank := hrhs.isGap_iff.mpr hgap 'p' (by simp [referTo, selector_eq])
      exact absurd hblank (by decide)

/-- What is classified as an equality is all that is read as one and not compared with a reference. -/
theorem classify?_eq_equality_iff : classify? expression = some (.equality left rhs) ↔
    Written (.equality left rhs) expression ∧ reference? rhs = none := by
  rw [classify?_eq_some_iff]
  refine and_congr_right fun hw => ?_
  constructor
  · intro h
    rw [Option.eq_none_iff_forall_ne_some]
    intro right hr
    exact h rfl _ (written_dualEquality_iff.mpr ⟨rhs, hw, hr⟩) rfl
  · intro hnone _ t ht hdual
    cases t with
    | dualEquality l r =>
      obtain ⟨rhs', hw', hr⟩ := written_dualEquality_iff.mp ht
      have heq : Shape.equality l rhs' = .equality left rhs := hw'.unique rfl hw
      obtain ⟨-, rfl⟩ := Shape.equality.inj heq
      rw [hnone] at hr
      contradiction
    | identity | equality | ternary | literalTernary => contradiction

/-- An equality is read of exactly the comparisons whose right side stands on one line and opens no
question mark. The right side is what the blanks around it leave of the body, or of a body of blanks
the last one that is no line end; so it is never empty, and blank only of a blank body. -/
theorem equality_template_exact (expression name rhs : Text) :
    (read? .equality expression = some (.equality name rhs) ↔
      ∃ body, Refers expression name (['=', '='] ++ body) ∧ '\n' ∉ rhs ∧
        hasOpenQuestion rhs = false ∧
        ((∃ c ∈ body, isBlank c = false) ∧ IsTrimmed rhs body ∨
          IsGap body ∧ ∃ c, rhs = [c] ∧ IsLastInLine c body)) ∧
    (∀ shape, read? .equality expression = some shape → ∃ n r, shape = .equality n r) ∧
    (read? .equality expression = some (.equality name rhs) → rhs ≠ [] ∧
      ∀ body, Refers expression name (['=', '='] ++ body) → (IsGap rhs ↔ IsGap body)) := by
  have hread : read? .equality expression = some (.equality name rhs) ↔
      Written (.equality name rhs) expression := by
    rw [read?_eq_some_iff]
    exact and_iff_right rfl
  refine ⟨?_, fun shape hs => ?_, fun h => ?_⟩
  · rw [hread, written_equality_iff]
    refine exists_congr fun body => and_congr_right fun _ => ?_
    rw [isRightSide_iff, and_assoc]
    exact and_congr_right fun _ => and_comm
  · obtain ⟨hk, -⟩ := read?_eq_some_iff.mp hs
    cases shape with
    | equality n r => exact ⟨n, r, rfl⟩
    | identity | dualEquality | ternary | literalTernary => contradiction
  · have hw := hread.mp h
    obtain ⟨body, -, hrhs, -⟩ := written_equality_iff.mp hw
    exact ⟨hrhs.ne_nil, fun body' href => (hw.isRightSide href).isGap_iff⟩

/-- Of blanks with a line end behind them the last one before it. -/
example : read? .equality (openMark ++ "params.a==\t \n".toList ++ closeMark) =
    some (.equality ['a'] [' ']) := by
  decide +kernel

end ParameterTemplates.Template
