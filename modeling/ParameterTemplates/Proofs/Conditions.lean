import ParameterTemplates.Proofs.Faults
import ParameterTemplates.Proofs.Spelling

/-! What the condition of a choice means. It is the equality that it is written as, also where that
equality by itself cannot be read because of a line end; and a parameter that is a boolean and
nothing else may stand for its comparison with a truth value. -/
namespace ParameterTemplates
open Template Text

namespace Literal

/-- The name of a truth value is a literal of no other type. -/
theorem coerce_writeBoolean_eq_ok_iff {type : ValueType} {b : Bool} {v : Scalar} :
    coerce type (Json.writeBoolean b) = .ok v ↔ type = .boolean ∧ v = .boolean b := by
  have hreference : ∀ b, reference? (Json.writeBoolean b) = none := by decide
  have hread : ∀ b, read? type (Json.writeBoolean b) =
      if type = .boolean then some (.boolean b) else none := by
    intro b
    cases type <;> cases b <;> rfl
  rw [coerce_eq_ok_iff, hread]
  simp [hreference, eq_comm]

end Literal

theorem Table.branchValue_writeBoolean (table : Table) (b : Bool) :
    table.branchValue .boolean (Json.writeBoolean b) = .ok (.boolean b) := by
  cases b <;> rfl

section Comparison

variable {table : Table} {wanted : ValueType} {name rhs x y : Text}

/-- With the truth values as its branches a choice yields its condition. -/
theorem evaluateTernary_truth_outcome :
    (evaluateTernary table .boolean name rhs "true".toList "false".toList).outcome =
      (evaluateEquality table name rhs).outcome.map .boolean := by
  rw [evaluateTernary_outcome]
  cases (evaluateEquality table name rhs).outcome with
  | error e => rfl
  | ok c => exact table.branchValue_writeBoolean c

theorem evaluateEquality_inQuotes {p : Parameter} {s v : Text} (hp : table name = some p)
    (ht : p.legalTypes.head? = some .string) (hv : p.asString = some v) :
    (evaluateEquality table name (inQuotes s)).outcome = .ok (v == s) := by
  have hread : p.readAs name .string = .ok (.string v) :=
    Parameter.readAs_eq_ok_iff.mpr ⟨p.isLegal_of_head? ht, by simp [Parameter.access, hv]⟩
  exact evaluateEquality_eq_ok_iff.mpr ⟨p, .string, .string v, .string s, hp, ht, hread,
    Literal.coerce_inQuotes s, rfl⟩

end Comparison

/-- The condition of a choice is an equality: with the truth values as branches the choice resolves
as the equality does, to the same answer or the same fault. The condition of any choice is read as
an equality by itself exactly if no line end stands in it, while the choice goes by the comparison
in either case, and compares a text in quotes over several lines as it is. -/
theorem choice_condition_is_equality :
    (∀ name rhs, IsName name → IsOperand rhs → '\n' ∉ rhs → reference? rhs = none →
      ∀ table wanted,
        (resolve table .boolean
          (Shape.ternary name rhs "true".toList "false".toList).text).outcome =
            (resolve table wanted (Shape.equality name rhs).text).outcome) ∧
    ∀ e name rhs x y, read? .ternary e = some (.ternary name rhs x y) →
      (read? .equality (Shape.equality name rhs).text = some (.equality name rhs) ↔
        '\n' ∉ rhs) ∧
      ('\n' ∈ rhs → read? .equality (Shape.equality name rhs).text = none) ∧
      (∀ table wanted, (resolve table wanted e).outcome =
        (evaluateEquality table name rhs).outcome >>= fun holds =>
          table.branchValue wanted (if holds then x else y)) ∧
      ∀ s, rhs = inQuotes s → ∀ table wanted p v, table name = some p →
        p.legalTypes.head? = some .string → p.asString = some v →
          (resolve table wanted e).outcome = table.branchValue wanted (if v = s then x else y) := by
  constructor
  · intro name rhs hn ho hline hnone table wanted
    have hternary : (Shape.ternary name rhs "true".toList "false".toList).WellFormed :=
      ⟨hn, ho, by decide, by decide⟩
    have hequality : (Shape.equality name rhs).WellFormed :=
      ⟨hn, ho.ne_nil, ho.solidHead, ho.solidLast, hline, ho.hasOpenQuestion_eq_false, hnone⟩
    rw [resolve_text_outcome hternary, resolve_text_outcome hequality, evaluate_equality_outcome]
    exact evaluateTernary_truth_outcome
  · intro e name rhs x y h
    obtain ⟨-, hw⟩ := read?_eq_some_iff.mp h
    obtain ⟨hn, ho⟩ : IsName name ∧ IsOperand rhs := by
      cases hw with
      | ternary hn ho => exact ⟨hn, ho⟩
    have hs : classify? e = some (.ternary name rhs x y) :=
      classify?_eq_some_iff.mpr ⟨hw, fun hk => nomatch hk⟩
    have hresolve : ∀ table wanted, (resolve table wanted e).outcome =
        (evaluateEquality table name rhs).outcome >>= fun holds =>
          table.branchValue wanted (if holds then x else y) := by
      intro table wanted
      rw [resolve_outcome, hs]
      exact evaluateTernary_outcome table wanted name rhs x y
    refine ⟨?_, fun hline => ?_, hresolve, fun s hrhs table wanted p v hp ht hv => ?_⟩
    · rw [read?_equality_text hn ho]
      simp
    · rw [read?_equality_text hn ho, if_pos hline]
    · subst hrhs
      rw [hresolve, evaluateEquality_inQuotes hp ht hv]
      simp only [Bind.bind, Except.bind, beq_iff_eq]

/-- A condition with an escaped quote and marks in it, and one over two lines. -/
theorem choice_condition_is_equality_two_lines :
    let marks := inQuotes ['}', '}', '\\', '"', '?']
    let lines := inQuotes ['x', '\n', '?']
    let e := (Shape.ternary ['n'] lines (inQuotes ['y']) (inQuotes ['z'])).text
    (∀ table wanted,
      (resolve table .boolean
        (Shape.ternary ['n'] marks "true".toList "false".toList).text).outcome =
          (resolve table wanted (Shape.equality ['n'] marks).text).outcome) ∧
      read? .ternary e = some (.ternary ['n'] lines (inQuotes ['y']) (inQuotes ['z'])) ∧
      read? .equality (Shape.equality ['n'] lines).text = none ∧
      (resolve (fun _ => some (.ofScalar (.string ['x', '\n', '?']))) .string e).outcome =
        .ok (.string ['y']) := by
  intro marks lines e
  have hread : read? .ternary e =
      some (.ternary ['n'] lines (inQuotes ['y']) (inQuotes ['z'])) := by decide +kernel
  obtain ⟨halone, hchoice⟩ := choice_condition_is_equality
  obtain ⟨-, hnone, -, hquoted⟩ := hchoice e _ _ _ _ hread
  refine ⟨halone ['n'] marks (by decide) (by decide) (by decide) (by decide), hread,
    hnone (by decide), ?_⟩
  rw [hquoted ['x', '\n', '?'] rfl _ .string _ ['x', '\n', '?'] rfl rfl rfl]
  decide +kernel

section Flag

variable {table : Table} {wanted : ValueType} {name x y : Text}

/-- A parameter that is legal as a boolean and as nothing else compares with a truth value as its
own value does, and fails to as it fails to be a condition. -/
theorem evaluateEquality_flag (h : ∀ p, table name = some p → p.legalTypes = [.boolean])
    (b : Bool) : (evaluateEquality table name (Json.writeBoolean b)).outcome =
      (condition table name).map (· == b) := by
  cases hp : table name with
  | none =>
    rw [evaluateEquality_eq_error_iff.mpr (.absent hp), condition_eq_error_iff.mpr (.absent hp)]
    rfl
  | some p =>
    have ht : p.legalTypes.head? = some .boolean := by rw [h p hp]; rfl
    have hlegal : p.legalBoolean = true := p.isLegal_of_head? ht
    cases hv : p.asBoolean with
    | none =>
      have hnone : p.access .boolean = none := by simp [Parameter.access, hv]
      rw [evaluateEquality_eq_error_iff.mpr (.valueless hp ht hnone),
        condition_eq_error_iff.mpr (.valueless hp hlegal hv)]
      rfl
    | some c =>
      have hread : p.readAs name .boolean = .ok (.boolean c) :=
        Parameter.readAs_eq_ok_iff.mpr ⟨hlegal, by simp [Parameter.access, hv]⟩
      have hcoerce := Literal.coerce_writeBoolean_eq_ok_iff.mpr ⟨rfl, Eq.refl (Scalar.boolean b)⟩
      rw [evaluateEquality_eq_ok_iff.mpr ⟨p, _, _, _, hp, ht, hread, hcoerce, rfl⟩,
        condition_eq_ok_iff.mpr ⟨p, hp, hlegal, hv⟩]
      rfl

/-- A parameter that is not legal as a boolean compares with no truth value. -/
theorem evaluateEquality_writeBoolean_ne_ok {p : Parameter} (hp : table name = some p)
    (hlegal : p.legalBoolean = false) (b c : Bool) :
    (evaluateEquality table name (Json.writeBoolean b)).outcome ≠ .ok c := by
  intro h
  obtain ⟨p', type, u, v, hp', ht, -, hcoerce, -⟩ := evaluateEquality_eq_ok_iff.mp h
  obtain rfl : p = p' := Option.some.inj (hp.symm.trans hp')
  obtain ⟨rfl, -⟩ := Literal.coerce_writeBoolean_eq_ok_iff.mp hcoerce
  have htrue : p.legalBoolean = true := p.isLegal_of_head? ht
  rw [hlegal] at htrue
  contradiction

/-- A choice on a flag: by itself, compared with one truth value, or compared with the other one and
with its branches exchanged. -/
def flagChoices (name x y : Text) : List Shape :=
  [.literalTernary name x y, .ternary name "true".toList x y, .ternary name "false".toList y x]

theorem wellFormed_of_mem_flagChoices (hn : IsName name) (hx : IsOperand x) (hy : IsOperand y)
    {s : Shape} (hs : s ∈ flagChoices name x y) : s.WellFormed := by
  simp only [flagChoices, List.mem_cons, List.not_mem_nil, or_false] at hs
  rcases hs with rfl | rfl | rfl
  · exact ⟨hn, hx, hy⟩
  · exact ⟨hn, by decide, hx, hy⟩
  · exact ⟨hn, by decide, hy, hx⟩

/-- However a choice on a flag is written, it goes by the flag. -/
theorem evaluate_flagChoices_outcome (h : ∀ p, table name = some p → p.legalTypes = [.boolean])
    {s : Shape} (hs : s ∈ flagChoices name x y) : (evaluate table wanted s).outcome =
      condition table name >>= fun holds => table.branchValue wanted (if holds then x else y) := by
  have hchoice (b : Bool) (t u : Text) :
      (evaluateTernary table wanted name (Json.writeBoolean b) t u).outcome =
        condition table name >>= fun holds =>
          table.branchValue wanted (if holds == b then t else u) := by
    rw [evaluateTernary_outcome, evaluateEquality_flag h]
    cases condition table name <;> rfl
  simp only [flagChoices, List.mem_cons, List.not_mem_nil, or_false] at hs
  rcases hs with rfl | rfl | rfl
  · exact evaluateLiteralTernary_outcome table wanted name x y
  · refine (hchoice true x y).trans ?_
    simp only [beq_true]
  · refine (hchoice false y x).trans ?_
    congr 1
    funext holds
    cases holds <;> rfl

/-- Nor does a choice on a parameter that is no boolean have an answer, however it is written. -/
theorem evaluate_flagChoices_ne_ok {p : Parameter} (hp : table name = some p)
    (hlegal : p.legalBoolean = false) {s : Shape} (hs : s ∈ flagChoices name x y) (v : Scalar) :
    (evaluate table wanted s).outcome ≠ .ok v := by
  have hchoice (b : Bool) (t u : Text) :
      (evaluateTernary table wanted name (Json.writeBoolean b) t u).outcome ≠ .ok v := by
    intro h
    obtain ⟨c, hc, -⟩ := evaluateTernary_eq_ok_iff.mp h
    exact evaluateEquality_writeBoolean_ne_ok hp hlegal b c hc
  simp only [flagChoices, List.mem_cons, List.not_mem_nil, or_false] at hs
  rcases hs with rfl | rfl | rfl
  · intro h
    obtain ⟨c, hc, -⟩ := evaluateLiteralTernary_eq_ok_iff.mp h
    rw [condition_eq_error_iff.mpr (.notCondition hp hlegal)] at hc
    contradiction
  · exact hchoice true x y
  · exact hchoice false y x

end Flag

/-- A choice on a flag means the same in each of its forms over every table that lacks the flag or
holds it as a boolean and nothing else, whatever its accessors yield; over a table that holds it
without letting it be a boolean no form has an answer. -/
theorem flag_choices_agree {name x y : Text} (hn : IsName name) (hx : IsOperand x)
    (hy : IsOperand y) (table : Table) (wanted : ValueType) :
    ((∀ p, table name = some p → p.legalTypes = [.boolean]) →
      ∀ s ∈ flagChoices name x y, ∀ t ∈ flagChoices name x y,
        (resolve table wanted s.text).outcome = (resolve table wanted t.text).outcome) ∧
    ∀ p, table name = some p → p.legalBoolean = false →
      ∀ s ∈ flagChoices name x y, ∀ v, (resolve table wanted s.text).outcome ≠ .ok v := by
  constructor
  · intro h s hs t ht
    rw [resolve_text_outcome (wellFormed_of_mem_flagChoices hn hx hy hs),
      resolve_text_outcome (wellFormed_of_mem_flagChoices hn hx hy ht),
      evaluate_flagChoices_outcome h hs, evaluate_flagChoices_outcome h ht]
  · intro p hp hlegal s hs v
    rw [resolve_text_outcome (wellFormed_of_mem_flagChoices hn hx hy hs)]
    exact evaluate_flagChoices_ne_ok hp hlegal hs v

/-- A flag that yields nothing although it is a boolean, and a string in place of a flag. -/
theorem flag_choices_agree_no_value :
    let flag : Table := fun _ => some ⟨false, false, true, some ['x'], none, none⟩
    (resolve flag .number (Shape.ternary ['f'] "false".toList ['1'] ['2']).text).outcome =
        (resolve flag .number (Shape.literalTernary ['f'] ['2'] ['1']).text).outcome ∧
      (resolve flag .number (Shape.literalTernary ['f'] ['2'] ['1']).text).outcome =
        .error (.typeMismatch (.noValue ['f'] .boolean)) ∧
      ∀ s ∈ flagChoices ['f'] ['2'] ['1'], ∀ v,
        (resolve (fun _ => some (.ofScalar (.string ['x']))) .number s.text).outcome ≠ .ok v := by
  intro flag
  have hboolean : ∀ p, flag ['f'] = some p → p.legalTypes = [.boolean] := by
    intro p hp
    obtain rfl := Option.some.inj hp
    rfl
  have hn : IsName ['f'] := by decide
  have hx : IsOperand ['2'] := by decide
  have hy : IsOperand ['1'] := by decide
  refine ⟨?_, by decide +kernel, ?_⟩
  · exact (flag_choices_agree hn hx hy flag .number).1 hboolean _ (by decide) _ (by decide)
  · exact (flag_choices_agree hn hx hy _ .number).2 _ rfl rfl

end ParameterTemplates
