import ParameterTemplates.Proofs.Classification
import ParameterTemplates.Proofs.Faults

/-! The names that a resolution looks up, in the order in which it does. Which branch of a choice is
among them depends on the table. Resolution is the same over every table that agrees on these
names, and it fails for a name exactly when that name is the first of them to be absent. -/
namespace ParameterTemplates
open Template

namespace Template.Shape

/-- The names that are looked up whatever they stand for. -/
def subjects : Shape → List Text
  | .identity name => [name]
  | .equality name _ => [name]
  | .dualEquality left right => [left, right]
  | .ternary name _ _ _ => [name]
  | .literalTernary name _ _ => [name]

/-- The branch of a choice for each value of its condition. -/
def branch? (holds : Bool) : Shape → Option Text
  | .ternary _ _ x y => some (if holds then x else y)
  | .literalTernary _ x y => some (if holds then x else y)
  | _ => none

/-- The value of the condition of a choice, where it has one. -/
def condition? (table : Table) : Shape → Option Bool
  | .ternary name rhs _ _ => (evaluateEquality table name rhs).outcome.toOption
  | .literalTernary name _ _ => (condition table name).toOption
  | _ => none

/-- The name that the selected branch refers to. -/
def selected? (table : Table) (s : Shape) : Option Text :=
  (s.condition? table).bind fun holds => (s.branch? holds).bind reference?

/-- The names that are looked up over a table, in order, as long as each is found. -/
def reads (table : Table) (s : Shape) : List Text := s.subjects ++ (s.selected? table).toList

variable {table : Table} {s : Shape} {n : Text}

theorem mem_reads_iff : n ∈ s.reads table ↔ n ∈ s.subjects ∨ s.selected? table = some n := by
  simp [reads]

theorem selected?_eq_some_iff : s.selected? table = some n ↔
    ∃ holds branch, s.condition? table = some holds ∧ s.branch? holds = some branch ∧
      reference? branch = some n := by
  simp [selected?, Option.bind_eq_some_iff]

end Template.Shape

/-- The names that the resolution of an expression looks up. -/
def namesRead (table : Table) (expression : Text) : List Text :=
  match classify? expression with
  | some s => s.reads table
  | none => []

namespace Table

/-- Two tables have the same under each of some names. -/
def AgreeOn (names : List Text) (t₁ t₂ : Table) : Prop := ∀ n ∈ names, t₁ n = t₂ n

instance (names : List Text) (t₁ t₂ : Table) : Decidable (AgreeOn names t₁ t₂) :=
  inferInstanceAs (Decidable (∀ n ∈ names, t₁ n = t₂ n))

/-- The first of some names that a table lacks. -/
def firstAbsent? (table : Table) (names : List Text) : Option Text :=
  names.find? fun n => (table n).isNone

variable {table : Table} {n : Text}

theorem firstAbsent?_cons_eq_some_iff {m : Text} {names : List Text} :
    table.firstAbsent? (m :: names) = some n ↔
      table m = none ∧ n = m ∨ table m ≠ none ∧ table.firstAbsent? names = some n := by
  rw [firstAbsent?, List.find?_cons]
  cases h : table m with
  | none =>
    simp only [Option.isNone_none, Option.some.injEq, true_and, ne_eq, not_true, false_and,
      or_false]
    exact eq_comm
  | some p => simp [firstAbsent?]

theorem firstAbsent?_singleton_eq_some_iff {m : Text} :
    table.firstAbsent? [m] = some n ↔ table m = none ∧ n = m := by
  rw [firstAbsent?_cons_eq_some_iff]
  simp [firstAbsent?]

theorem firstAbsent?_eq_none_iff {names : List Text} :
    table.firstAbsent? names = none ↔ ∀ m ∈ names, table m ≠ none := by
  simp [firstAbsent?]

theorem of_firstAbsent?_eq_some {names : List Text} (h : table.firstAbsent? names = some n) :
    n ∈ names ∧ table n = none :=
  ⟨List.mem_of_find?_eq_some h, by simpa using List.find?_some h⟩

end Table

section Unresolved

variable {table : Table} {wanted : ValueType} {name rhs branch n : Text}

theorem Parameter.readAs_ne_unresolved (name : Text) (p : Parameter) (type : ValueType) (n : Text) :
    p.readAs name type ≠ .error (.unresolved n) := by
  simp [Parameter.readAs_eq_error_iff]

theorem Literal.coerce_ne_unresolved (wanted : ValueType) (t n : Text) :
    Literal.coerce wanted t ≠ .error (.unresolved n) := by
  intro h
  have := Literal.eq_malformed_of_coerce h
  contradiction

theorem Table.value_eq_unresolved_iff :
    table.value wanted name = .error (.unresolved n) ↔ table name = none ∧ n = name := by
  simp [Table.value_eq_error_iff, Parameter.readAs_ne_unresolved]

theorem Table.branchValue_eq_unresolved_iff :
    table.branchValue wanted branch = .error (.unresolved n) ↔
      table.firstAbsent? (reference? branch).toList = some n := by
  unfold Table.branchValue
  cases reference? branch with
  | none => simp [Literal.coerce_ne_unresolved, Table.firstAbsent?]
  | some m =>
    rw [Option.toList_some, Table.firstAbsent?_singleton_eq_some_iff, Table.value_eq_unresolved_iff]

theorem evaluateEquality_eq_unresolved_iff :
    (evaluateEquality table name rhs).outcome = .error (.unresolved n) ↔
      table name = none ∧ n = name := by
  rw [evaluateEquality_eq_error_iff]
  constructor
  · intro h
    cases h with
    | absent hp => exact ⟨hp, rfl⟩
  · rintro ⟨hp, rfl⟩
    exact .absent hp

theorem evaluateDualEquality_eq_unresolved_iff {left right : Text} :
    (evaluateDualEquality table left right).outcome = .error (.unresolved n) ↔
      table.firstAbsent? [left, right] = some n := by
  rw [evaluateDualEquality_eq_error_iff, Table.firstAbsent?_cons_eq_some_iff,
    Table.firstAbsent?_singleton_eq_some_iff]
  constructor
  · intro h
    cases h with
    | absentLeft hl => exact .inl ⟨hl, rfl⟩
    | absentRight hl hr => exact .inr ⟨by simp [hl], hr, rfl⟩
  · rintro (⟨hl, rfl⟩ | ⟨hl, hr, rfl⟩)
    · exact .absentLeft hl
    · obtain ⟨l, hl⟩ := Option.ne_none_iff_exists'.mp hl
      exact .absentRight hl hr

theorem condition_eq_unresolved_iff :
    condition table name = .error (.unresolved n) ↔ table name = none ∧ n = name := by
  rw [condition_eq_error_iff]
  constructor
  · intro h
    cases h with
    | absent hp => exact ⟨hp, rfl⟩
  · rintro ⟨hp, rfl⟩
    exact .absent hp

/-- A choice lacks the name of its condition or else the name that its selected branch refers to. -/
theorem choice_unresolved_iff {cond : Except ResolveError Bool} {x y : Text}
    (hcond : ∀ m, cond = .error (.unresolved m) ↔ table name = none ∧ m = name) :
    (cond = .error (.unresolved n) ∨
        ∃ holds, cond = .ok holds ∧
          table.branchValue wanted (if holds then x else y) = .error (.unresolved n)) ↔
      table.firstAbsent? (name ::
        (cond.toOption.bind fun holds => reference? (if holds then x else y)).toList) = some n := by
  cases cond with
  | error e => simp [hcond, Except.toOption, Table.firstAbsent?_singleton_eq_some_iff]
  | ok holds =>
    have hfound : table name ≠ none := fun h => by simpa using (hcond name).mpr ⟨h, rfl⟩
    simp [Table.firstAbsent?_cons_eq_some_iff, hfound, Table.branchValue_eq_unresolved_iff,
      Except.toOption]

end Unresolved

/-- Evaluation fails for a name exactly when it is the first of the names looked up to be absent. -/
theorem evaluate_eq_unresolved_iff {table : Table} {wanted : ValueType} {s : Shape} {n : Text} :
    (evaluate table wanted s).outcome = .error (.unresolved n) ↔
      table.firstAbsent? (s.reads table) = some n := by
  cases s with
  | identity name =>
    have hreads : (Shape.identity name).reads table = [name] := rfl
    rw [hreads, Table.firstAbsent?_singleton_eq_some_iff]
    exact Table.value_eq_unresolved_iff
  | equality name rhs =>
    have hreads : (Shape.equality name rhs).reads table = [name] := rfl
    rw [hreads, Table.firstAbsent?_singleton_eq_some_iff]
    simp [evaluate, Traced.outcome_bind_eq_error, evaluateEquality_eq_unresolved_iff]
  | dualEquality left right =>
    have hreads : (Shape.dualEquality left right).reads table = [left, right] := rfl
    rw [hreads]
    simp [evaluate, Traced.outcome_bind_eq_error, evaluateDualEquality_eq_unresolved_iff]
  | ternary name rhs x y =>
    have hreads : (Shape.ternary name rhs x y).reads table = name ::
        ((evaluateEquality table name rhs).outcome.toOption.bind fun holds =>
          reference? (if holds then x else y)).toList := rfl
    rw [hreads, ← choice_unresolved_iff fun _ => evaluateEquality_eq_unresolved_iff]
    exact evaluateTernary_eq_error_iff
  | literalTernary name x y =>
    have hreads : (Shape.literalTernary name x y).reads table = name ::
        ((condition table name).toOption.bind fun holds =>
          reference? (if holds then x else y)).toList := rfl
    rw [hreads, ← choice_unresolved_iff fun _ => condition_eq_unresolved_iff]
    exact evaluateLiteralTernary_eq_error_iff

section Agreement

variable {t₁ t₂ : Table} {wanted : ValueType} {name : Text}

theorem Table.find_congr (h : t₁ name = t₂ name) : t₁.find name = t₂.find name := by
  rw [Table.find, Table.find, h]

theorem Table.branchValue_congr {branch : Text}
    (h : ∀ n, reference? branch = some n → t₁ n = t₂ n) :
    t₁.branchValue wanted branch = t₂.branchValue wanted branch := by
  unfold Table.branchValue
  cases hr : reference? branch with
  | none => rfl
  | some n => simp only [Table.value, Table.find_congr (h n hr)]

theorem evaluateEquality_congr (h : t₁ name = t₂ name) (rhs : Text) :
    evaluateEquality t₁ name rhs = evaluateEquality t₂ name rhs := by
  rw [evaluateEquality, evaluateEquality, Table.find_congr h]

theorem condition_congr (h : t₁ name = t₂ name) : condition t₁ name = condition t₂ name := by
  rw [condition, condition, Table.find_congr h]

/-- Over tables that agree on what is looked up in one of them a shape evaluates to the same and
leaves the same records. -/
theorem evaluate_congr {s : Shape} (h : Table.AgreeOn (s.reads t₁) t₁ t₂) :
    evaluate t₁ wanted s = evaluate t₂ wanted s := by
  have hsubject : ∀ n ∈ s.subjects, t₁ n = t₂ n := fun n hn =>
    h n (Shape.mem_reads_iff.mpr (.inl hn))
  have hselected : ∀ holds branch, s.condition? t₁ = some holds → s.branch? holds = some branch →
      t₁.branchValue wanted branch = t₂.branchValue wanted branch := by
    intro holds branch hc hb
    refine Table.branchValue_congr fun n hn => h n (Shape.mem_reads_iff.mpr (.inr ?_))
    exact Shape.selected?_eq_some_iff.mpr ⟨holds, branch, hc, hb, hn⟩
  cases s with
  | identity name =>
    have hname : t₁ name = t₂ name := hsubject name (by simp [Shape.subjects])
    simp only [evaluate, Table.value, Table.find_congr hname]
  | equality name rhs =>
    have hname : t₁ name = t₂ name := hsubject name (by simp [Shape.subjects])
    simp only [evaluate, evaluateEquality_congr hname]
  | dualEquality left right =>
    have hleft : t₁ left = t₂ left := hsubject left (by simp [Shape.subjects])
    have hright : t₁ right = t₂ right := hsubject right (by simp [Shape.subjects])
    simp only [evaluate, evaluateDualEquality, Table.find_congr hleft, Table.find_congr hright]
  | ternary name rhs x y =>
    have hname : t₁ name = t₂ name := hsubject name (by simp [Shape.subjects])
    simp only [evaluate, evaluateTernary, ← evaluateEquality_congr hname]
    refine Traced.bind_congr fun holds hcond => ?_
    rw [hselected holds _ (by simp [Shape.condition?, hcond, Except.toOption]) rfl]
  | literalTernary name x y =>
    have hname : t₁ name = t₂ name := hsubject name (by simp [Shape.subjects])
    simp only [evaluate, evaluateLiteralTernary, ← condition_congr hname]
    refine Traced.bind_congr fun holds hcond => ?_
    rw [Traced.outcome_ofExcept] at hcond
    rw [hselected holds _ (by simp [Shape.condition?, hcond, Except.toOption]) rfl]

end Agreement

theorem resolve_eq_unresolved_iff {table : Table} {wanted : ValueType} {expression n : Text} :
    (resolve table wanted expression).outcome = .error (.unresolved n) ↔
      table.firstAbsent? (namesRead table expression) = some n := by
  rw [resolve_outcome, namesRead]
  cases classify? expression with
  | none => simp [Table.firstAbsent?]
  | some s => exact evaluate_eq_unresolved_iff

theorem resolve_congr {t₁ t₂ : Table} {wanted : ValueType} {expression : Text}
    (h : Table.AgreeOn (namesRead t₁ expression) t₁ t₂) :
    resolve t₁ wanted expression = resolve t₂ wanted expression := by
  refine Traced.bind_congr fun s hs => ?_
  rw [namesRead, classify_eq_ok_iff.mp hs] at h
  simp only [evaluate_congr h]

end ParameterTemplates
