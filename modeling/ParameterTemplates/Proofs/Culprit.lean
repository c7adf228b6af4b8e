import ParameterTemplates.Proofs.Provenance

/-! What a failed resolution points at. An error quotes from the expression, word for word, what it
is about, and what it quotes is to blame: a name that is missing or of the wrong type, the right
side of a comparison, or the branch that the condition selects. -/
namespace ParameterTemplates
open Template

/-- The names that a fault of types is about. -/
def TypeFault.names : TypeFault → List Text
  | .notLegal name _ _ => [name]
  | .noValue name _ => [name]
  | .incomparable left _ right => [left, right]
  | .notCondition name => [name]
  | .stated _ => []

/-- What an error quotes from an expression. -/
def ResolveError.quotes : ResolveError → List Text
  | .structural expression _ => [expression]
  | .unresolved name => [referTo name]
  | .typeMismatch fault => fault.names.map referTo
  | .malformed text _ => [text]
  | .noLegalType name => [referTo name]

/-- The message of a fault names each parameter that the fault is about. -/
theorem TypeFault.infix_message {fault : TypeFault} {n : Text} (h : n ∈ fault.names) :
    referTo n <:+: fault.message := by
  cases fault with
  | notLegal name wanted legal =>
    obtain rfl := List.mem_singleton.mp h
    unfold message
    iterate 4 apply List.infix_append_of_infix_left
    exact List.infix_append_left
  | noValue name type =>
    obtain rfl := List.mem_singleton.mp h
    unfold message
    iterate 4 apply List.infix_append_of_infix_left
    exact List.infix_append_left
  | incomparable left type right =>
    rcases List.mem_pair.mp h with rfl | rfl
    · unfold message
      iterate 3 apply List.infix_append_of_infix_left
      exact List.infix_append _ _ _
    · exact List.infix_append_right
  | notCondition name =>
    obtain rfl := List.mem_singleton.mp h
    exact List.infix_append_left
  | stated reason => contradiction

/-- The message of an error contains what the error quotes. -/
theorem ResolveError.infix_message {err : ResolveError} {t : Text} (h : t ∈ err.quotes) :
    t <:+: err.message := by
  cases err with
  | structural expression fault =>
    obtain rfl := List.mem_singleton.mp h
    apply List.infix_append_of_infix_left
    exact List.infix_append _ _ _
  | unresolved name =>
    obtain rfl := List.mem_singleton.mp h
    exact List.infix_append_right
  | typeMismatch fault =>
    obtain ⟨n, hn, rfl⟩ := List.mem_map.mp h
    exact (TypeFault.infix_message hn).trans List.infix_append_right
  | malformed text wanted =>
    obtain rfl := List.mem_singleton.mp h
    exact List.infix_append _ _ _
  | noLegalType name =>
    obtain rfl := List.mem_singleton.mp h
    exact List.infix_append _ _ _

namespace Template

namespace Shape

/-- The name on the left of a comparison. -/
def left? : Shape → Option Text
  | .equality name _ => some name
  | .dualEquality left _ => some left
  | .ternary name _ _ _ => some name
  | _ => none

/-- The literal on the right of a comparison. -/
def literal? : Shape → Option Text
  | .equality _ rhs => some rhs
  | .ternary _ rhs _ _ => some rhs
  | _ => none

variable {s : Shape} {n : Text}

theorem mem_mentions_of_left? (h : s.left? = some n) : n ∈ s.mentions := by
  cases s with
  | equality | dualEquality | ternary =>
    obtain rfl := Option.some.inj h
    simp [mentions]
  | identity | literalTernary => contradiction

theorem mem_mentions_of_branch? {holds : Bool} {branch : Text} (hb : s.branch? holds = some branch)
    (hr : reference? branch = some n) : n ∈ s.mentions :=
  mem_mentions_iff.mpr (.inr ⟨holds, branch, hb, hr⟩)

end Shape

section Places

variable {s : Shape} {e n rhs branch body : Text} {holds : Bool}

theorem Written.infix_subject (h : Written s e) (hn : n ∈ s.subjects) : referTo n <:+: e := by
  cases h with
  | @identity name a b =>
    obtain rfl := List.mem_singleton.mp hn
    exact ⟨openMark ++ a, b ++ closeMark, by simp⟩
  | @equality name rhs body a b =>
    obtain rfl := List.mem_singleton.mp hn
    exact ⟨openMark ++ a, b ++ ['=', '='] ++ body ++ closeMark, by simp⟩
  | @dualEquality left right a b c d =>
    rcases List.mem_pair.mp hn with rfl | rfl
    · exact ⟨openMark ++ a, b ++ ['=', '='] ++ c ++ referTo right ++ d ++ closeMark, by simp⟩
    · exact ⟨openMark ++ a ++ referTo left ++ b ++ ['=', '='] ++ c, d ++ closeMark, by simp⟩
  | @ternary name rhs x y a b c d e f g h =>
    obtain rfl := List.mem_singleton.mp hn
    exact ⟨openMark ++ a, b ++ ['=', '='] ++ c ++ rhs ++ d ++ ['?'] ++ e ++ x ++ f ++ [':'] ++ g ++
      y ++ h ++ closeMark, by simp⟩
  | @literalTernary name x y a b c d e f =>
    obtain rfl := List.mem_singleton.mp hn
    exact ⟨openMark ++ a, b ++ ['?'] ++ c ++ x ++ d ++ [':'] ++ e ++ y ++ f ++ closeMark, by simp⟩

theorem Written.infix_branch (h : Written s e) (hb : s.branch? holds = some branch) :
    branch <:+: e := by
  obtain ⟨p, q, rfl, -⟩ := h.setBranch hb
  exact List.infix_append p branch q

theorem infix_of_reference? {t : Text} (h : reference? t = some n) : referTo n <:+: t := by
  obtain ⟨a, b, -, -, -, rfl⟩ := reference?_eq_some_iff.mp h
  exact List.infix_append a (referTo n) b

theorem Written.infix_mention (h : Written s e) (hn : n ∈ s.mentions) : referTo n <:+: e := by
  rcases Shape.mem_mentions_iff.mp hn with hn | ⟨holds, branch, hb, hr⟩
  · exact h.infix_subject hn
  · exact (infix_of_reference? hr).trans (h.infix_branch hb)

theorem IsRightSide.infix_body (h : IsRightSide body rhs) : rhs <:+: body := by
  cases h with
  | @trimmed a b => exact List.infix_append a rhs b
  | @blank a b c => exact ⟨a, b, by simp⟩

theorem Written.infix_literal (h : Written s e) (hr : s.literal? = some rhs) : rhs <:+: e := by
  cases h with
  | @equality name rhs body a b _ _ _ hrhs =>
    obtain rfl := Option.some.inj hr
    -- behind the sign stands the right side with the blanks around it
    have hbody : body <:+: openMark ++ a ++ referTo name ++ b ++ ['=', '='] ++ body ++ closeMark :=
      List.infix_append _ body closeMark
    exact hrhs.infix_body.trans hbody
  | @ternary name rhs x y a b c d e f g h =>
    obtain rfl := Option.some.inj hr
    exact ⟨openMark ++ a ++ referTo name ++ b ++ ['=', '='] ++ c, d ++ ['?'] ++ e ++ x ++ f ++
      [':'] ++ g ++ y ++ h ++ closeMark, by simp⟩
  | identity | dualEquality | literalTernary => contradiction

end Places

section Blame

/-- What a failure blames in a shape: a name that the table lacks, the parameters of a fault of
types, the parameter without a type on the left of a comparison, the right side of a comparison
whose type is that of the left one, or the branch that the condition selects. A condition that has
a value is not to blame, and one that has none leaves the branches out. -/
inductive Shape.Blames (table : Table) (wanted : ValueType) (s : Shape) : ResolveError → Prop where
  | unresolved {n : Text} : n ∈ s.mentions → table n = none → Blames table wanted s (.unresolved n)
  | typeMismatch {fault : TypeFault} : fault.names ≠ [] → (∀ n ∈ fault.names, n ∈ s.mentions) →
      Blames table wanted s (.typeMismatch fault)
  | noLegalType {n : Text} {p : Parameter} : s.left? = some n → table n = some p →
      p.legalTypes = [] → Blames table wanted s (.noLegalType n)
  | literal {n rhs : Text} {type : ValueType} : s.condition? table = none → s.left? = some n →
      s.literal? = some rhs → table.ComparesAs n type → (∀ v, Literal.coerce type rhs ≠ .ok v) →
      Blames table wanted s (.malformed rhs type)
  | branch {holds : Bool} {branch : Text} : s.condition? table = some holds →
      s.branch? holds = some branch → (∀ v, Literal.coerce wanted branch ≠ .ok v) →
      Blames table wanted s (.malformed branch wanted)

variable {table : Table} {wanted type : ValueType} {s : Shape} {n name rhs branch : Text}
  {holds : Bool} {fault : TypeFault} {err : ResolveError}

theorem Shape.Blames.of_name (hf : fault.names = [n]) (hn : n ∈ s.mentions) :
    s.Blames table wanted (.typeMismatch fault) := by
  apply Shape.Blames.typeMismatch
  · simp [hf]
  · simp [hf, hn]

theorem Shape.Blames.of_value (hn : n ∈ s.mentions) (h : table.value type n = .error err) :
    s.Blames table wanted err := by
  rcases Table.value_eq_error_iff.mp h with ⟨hp, rfl⟩ | ⟨p, hp, hread⟩
  · exact .unresolved hn hp
  · rcases Parameter.readAs_eq_error_iff.mp hread with ⟨-, rfl⟩ | ⟨-, -, rfl⟩
    · exact .of_name rfl hn
    · exact .of_name rfl hn

theorem Shape.Blames.of_branchValue (hc : s.condition? table = some holds)
    (hb : s.branch? holds = some branch) (h : table.branchValue wanted branch = .error err) :
    s.Blames table wanted err := by
  unfold Table.branchValue at h
  cases hr : reference? branch with
  | some n =>
    rw [hr] at h
    exact .of_value (mem_mentions_of_branch? hb hr) h
  | none =>
    rw [hr] at h
    obtain ⟨hno, rfl⟩ := Literal.coerce_eq_error_iff.mp h
    exact .branch hc hb hno

theorem Shape.Blames.of_equalityFault (hc : s.condition? table = none)
    (hleft : s.left? = some name) (hrhs : s.literal? = some rhs)
    (h : EqualityFault table name rhs err) : s.Blames table wanted err := by
  have hn : name ∈ s.mentions := mem_mentions_of_left? hleft
  cases h with
  | absent hp => exact .unresolved hn hp
  | untyped hp hl => exact .noLegalType hleft hp hl
  | valueless => exact .of_name rfl hn
  | malformed hp ht _ hno => exact .literal hc hleft hrhs ⟨_, hp, ht⟩ hno

theorem Shape.Blames.of_dualEqualityFault {left right : Text}
    (h : DualEqualityFault table left right err) :
    (dualEquality left right).Blames table wanted err := by
  have hl : left ∈ (dualEquality left right).mentions := by simp [mentions]
  have hr : right ∈ (dualEquality left right).mentions := by simp [mentions]
  cases h with
  | absentLeft hp => exact .unresolved hl hp
  | absentRight _ hp => exact .unresolved hr hp
  | untyped hp _ ht => exact .noLegalType rfl hp ht
  | incomparable => exact .typeMismatch (List.cons_ne_nil _ _) fun n hn => hn
  | valuelessLeft => exact .of_name rfl hl
  | valuelessRight => exact .of_name rfl hr

theorem Shape.Blames.of_conditionFault (hn : name ∈ s.mentions)
    (h : ConditionFault table name err) : s.Blames table wanted err := by
  cases h with
  | absent hp => exact .unresolved hn hp
  | notCondition => exact .of_name rfl hn
  | valueless => exact .of_name rfl hn

end Blame

end Template

section Failures

variable {table : Table} {wanted : ValueType} {s : Shape} {e : Text} {err : ResolveError}

/-- Every failure of evaluation is to blame on a part of the shape. -/
theorem evaluate_blames (h : (evaluate table wanted s).outcome = .error err) :
    s.Blames table wanted err := by
  cases s with
  | identity name => exact .of_value (List.mem_singleton.mpr rfl) h
  | equality name rhs =>
    have hfails := evaluate_equality_eq_error_iff.mp h
    exact .of_equalityFault rfl rfl rfl (evaluateEquality_eq_error_iff.mp hfails)
  | dualEquality left right =>
    have hfails := evaluate_dualEquality_eq_error_iff.mp h
    exact .of_dualEqualityFault (evaluateDualEquality_eq_error_iff.mp hfails)
  -- a choice fails in its condition, or else in the branch that the condition selects
  | ternary name rhs x y =>
    rcases evaluateTernary_eq_error_iff.mp h with hc | ⟨holds, hc, hbranch⟩
    · exact .of_equalityFault (toOption_eq_none_iff.mpr ⟨err, hc⟩) rfl rfl
        (evaluateEquality_eq_error_iff.mp hc)
    · exact .of_branchValue (toOption_eq_some_iff.mpr hc) rfl hbranch
  | literalTernary name x y =>
    rcases evaluateLiteralTernary_eq_error_iff.mp h with hc | ⟨holds, hc, hbranch⟩
    · exact .of_conditionFault (by simp [Shape.mentions]) (condition_eq_error_iff.mp hc)
    · exact .of_branchValue (toOption_eq_some_iff.mpr hc) rfl hbranch

/-- What a failure quotes stands in every text of the shape that is to blame. -/
theorem Template.Shape.Blames.infix_quotes (h : s.Blames table wanted err) (he : Written s e)
    {t : Text} (ht : t ∈ err.quotes) : t <:+: e := by
  cases h with
  | unresolved hn =>
    obtain rfl := List.mem_singleton.mp ht
    exact he.infix_mention hn
  | typeMismatch _ hnames =>
    obtain ⟨n, hn, rfl⟩ := List.mem_map.mp ht
    exact he.infix_mention (hnames n hn)
  | noLegalType hleft =>
    obtain rfl := List.mem_singleton.mp ht
    exact he.infix_mention (mem_mentions_of_left? hleft)
  | literal _ _ hrhs =>
    obtain rfl := List.mem_singleton.mp ht
    exact he.infix_literal hrhs
  | branch _ hb =>
    obtain rfl := List.mem_singleton.mp ht
    exact he.infix_branch hb

theorem Template.Shape.Blames.quotes_ne_nil (h : s.Blames table wanted err) : err.quotes ≠ [] := by
  cases h with
  | typeMismatch hnames =>
    intro hnil
    exact hnames (List.map_eq_nil_iff.mp hnil)
  | unresolved | noLegalType | literal | branch => exact List.cons_ne_nil _ _

/-- A resolution that fails has been refused as a whole, or a part of its shape is to blame. -/
theorem refused_or_blames (h : (resolve table wanted e).outcome = .error err) :
    err = .structural e .unsupported ∨ ∃ s, classify? e = some s ∧ s.Blames table wanted err := by
  rw [resolve_outcome] at h
  cases hs : classify? e with
  | none =>
    rw [hs] at h
    exact .inl (Except.error.inj h).symm
  | some s =>
    rw [hs] at h
    exact .inr ⟨s, rfl, evaluate_blames h⟩

/-- A failure quotes something, and only from the expression. -/
theorem quotes_of_resolve (h : (resolve table wanted e).outcome = .error err) :
    err.quotes ≠ [] ∧ ∀ t ∈ err.quotes, t <:+: e := by
  rcases refused_or_blames h with rfl | ⟨s, hs, hblames⟩
  · constructor
    · exact List.cons_ne_nil _ _
    · intro t ht
      obtain rfl := List.mem_singleton.mp ht
      exact List.infix_refl t
  · constructor
    · exact hblames.quotes_ne_nil
    · intro t ht
      exact hblames.infix_quotes (written_of_classify? hs) ht

/-- An expression with another operand in place of the branch that is not selected has the same
outcome. -/
theorem resolve_outcome_setBranch {holds : Bool} (hs : classify? e = some s)
    (hc : s.condition? table = some holds) :
    ∃ p other q, s.branch? (!holds) = some other ∧ e = p ++ other ++ q ∧
      ∀ o, IsOperand o → (resolve table wanted (p ++ o ++ q)).outcome =
        (resolve table wanted e).outcome := by
  obtain ⟨other, hb⟩ := Shape.exists_branch?_of_condition? hc (!holds)
  obtain ⟨p, q, he, hset⟩ := classify?_setBranch hs hb
  refine ⟨p, other, q, hb, he, fun o ho => ?_⟩
  rw [resolve_outcome, resolve_outcome, hset o ho, hs]
  -- the texts differ and so do their shapes, but not what these evaluate to
  show (evaluate table wanted (s.setBranch (!holds) o)).outcome = (evaluate table wanted s).outcome
  rw [evaluate_setBranch hc]

end Failures

/-- A failure points at what is to blame for it. What an error quotes stands in the expression and in
the message of the error. A refused expression is quoted as a whole, and a name is one of those that
the expression refers to: one that the table lacks, the left one of a comparison where a type cannot
be inferred, or one that a fault of types is about. A malformed literal is the right side of a
comparison, of the type inferred for its left one, or the selected branch, of the type that is
wanted. The other branch is never to blame: the failure stays with any operand in its place. -/
theorem failure_names_culprit {table : Table} {wanted : ValueType} {e : Text} {err : ResolveError}
    (h : (resolve table wanted e).outcome = .error err) :
    err.quotes ≠ [] ∧ (∀ t ∈ err.quotes, t <:+: e ∧ t <:+: err.message) ∧
    match err with
    | .structural t _ => t = e
    | .unresolved n => ∃ names, (referencedParameters e).outcome = .ok names ∧ n ∈ names ∧
        table n = none
    | .noLegalType n => ∃ s names, (classify e).outcome = .ok s ∧
        (referencedParameters e).outcome = .ok names ∧ n ∈ names ∧ s.left? = some n ∧
        ∃ p, table n = some p ∧ p.legalTypes = []
    | .typeMismatch fault => ∃ names, (referencedParameters e).outcome = .ok names ∧
        (∀ n ∈ fault.names, n ∈ names) ∧ ∃ n ∈ names, referTo n <:+: fault.message
    | .malformed t type => (∀ v, Literal.coerce type t ≠ .ok v) ∧
        ∃ s, (classify e).outcome = .ok s ∧
        (s.condition? table = none ∧ s.literal? = some t ∧
            (∃ n, s.left? = some n ∧ table.ComparesAs n type) ∨
          type = wanted ∧ ∃ holds, s.condition? table = some holds ∧ s.branch? holds = some t ∧
            ∃ p other q, s.branch? (!holds) = some other ∧ e = p ++ other ++ q ∧
              ∀ o, IsOperand o →
                (resolve table wanted (p ++ o ++ q)).outcome = .error (.malformed t wanted)) := by
  obtain ⟨hquotes, hpart⟩ := quotes_of_resolve h
  refine ⟨hquotes, fun t ht => ⟨hpart t ht, ResolveError.infix_message ht⟩, ?_⟩
  rcases refused_or_blames h with rfl | ⟨s, hs, hblames⟩
  · rfl
  · have hclassify := classify_eq_ok_iff.mpr hs
    have hnames := referencedParameters_eq_ok hclassify
    cases hblames with
    | unresolved hn hp => exact ⟨_, hnames, Shape.mem_parameters_iff.mpr hn, hp⟩
    | noLegalType hleft hp hl =>
      have hn := Shape.mem_parameters_iff.mpr (Shape.mem_mentions_of_left? hleft)
      exact ⟨s, _, hclassify, hnames, hn, hleft, _, hp, hl⟩
    | @typeMismatch fault hne hmem =>
      have hlisted : ∀ n ∈ fault.names, n ∈ s.parameters := by
        intro n hn
        exact Shape.mem_parameters_iff.mpr (hmem n hn)
      obtain ⟨n, hn⟩ := List.exists_mem_of_ne_nil _ hne
      exact ⟨_, hnames, hlisted, n, hlisted n hn, TypeFault.infix_message hn⟩
    | literal hc hleft hrhs htype hno =>
      exact ⟨hno, s, hclassify, .inl ⟨hc, hrhs, _, hleft, htype⟩⟩
    | branch hc hb hno =>
      obtain ⟨p, other, q, hother, he, hset⟩ := resolve_outcome_setBranch hs hc
      refine ⟨hno, s, hclassify, .inr ⟨rfl, _, hc, hb, p, other, q, hother, he, ?_⟩⟩
      intro o ho
      rw [hset o ho, h]

/-- A selected branch that is a numeral where a boolean is wanted. The other branch, a name that the
table lacks, could be any other operand. -/
theorem failure_names_culprit_selected :
    let e := (openMark ++ " params.a == \"x\" ? 1 : params.b ".toList ++ closeMark : Text)
    let table := (Bindings.empty.set ['a'] (.string ['x'])).table
    let err := ResolveError.malformed ['1'] .boolean
    (resolve table .boolean e).outcome = .error err ∧
      (∀ t ∈ err.quotes, t <:+: e ∧ t <:+: err.message) ∧
      ∃ p q, e = p ++ "params.b".toList ++ q ∧ ∀ o, IsOperand o →
        (resolve table .boolean (p ++ o ++ q)).outcome = .error err := by
  intro e table err
  let s : Shape := .ternary ['a'] "\"x\"".toList ['1'] "params.b".toList
  have hs : (classify e).outcome = .ok s := by decide +kernel
  have htrue : s.condition? table = some true := by decide +kernel
  have hfails : (resolve table .boolean e).outcome = .error err := by decide +kernel
  obtain ⟨-, hquotes, -, t, ht, hculprit⟩ := failure_names_culprit hfails
  obtain rfl : s = t := Except.ok.inj (hs.symm.trans ht)
  refine ⟨hfails, hquotes, ?_⟩
  rcases hculprit with ⟨hnone, -⟩ | ⟨-, holds, hc, -, p, other, q, hother, he, hset⟩
  · rw [htrue] at hnone
    contradiction
  · obtain rfl : true = holds := Option.some.inj (htrue.symm.trans hc)
    obtain rfl : "params.b".toList = other := Option.some.inj hother
    exact ⟨p, q, he, hset⟩

end ParameterTemplates
