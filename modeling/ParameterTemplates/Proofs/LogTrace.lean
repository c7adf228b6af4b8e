import ParameterTemplates.Proofs.OutcomeLaw
import ParameterTemplates.Proofs.Provenance

/-! What a resolution writes to the log, line by line. There are three groups of lines between the
first and the last one: a warning, the two values that were compared, and the branch that was taken.
Which of them appear, and in which order, is said of each shape by rules over the table. -/
namespace ParameterTemplates
open Template

/-- A line of the log, its level and its text. -/
abbrev Line := Level × Text

namespace Traced

variable {α β : Type} {x : Traced α} {f : α → Traced β}

/-- The records as they are written. -/
def log (x : Traced α) : List Line := x.records.map fun r => (r.level, r.message)

@[simp] theorem log_pure (a : α) : (pure a : Traced α).log = [] := rfl

@[simp] theorem log_fail (e : ResolveError) : (fail e : Traced α).log = [] := rfl

theorem log_bind_of_ok {a : α} (h : x.outcome = .ok a) : (x >>= f).log = x.log ++ (f a).log := by
  simp only [log, bind_of_ok h, List.map_append]

theorem log_bind_of_error {e : ResolveError} (h : x.outcome = .error e) :
    (x >>= f).log = x.log := by
  simp only [log, bind_of_error h]

theorem log_note_bind (r : Record) (f : Unit → Traced β) :
    (note r >>= f).log = (r.level, r.message) :: (f ()).log :=
  log_bind_of_ok rfl

theorem ofExcept_ok_bind (a : α) (f : α → Traced β) : ofExcept (.ok a) >>= f = f a := rfl

theorem log_ofExcept_error_bind (e : ResolveError) (f : α → Traced β) :
    (ofExcept (.error e) >>= f).log = [] :=
  log_bind_of_error rfl

/-- Work that has written nothing when it fails. -/
def FailsSilently (x : Traced α) : Prop := ∀ e, x.outcome = .error e → x.log = []

theorem failsSilently_of_ok {a : α} (h : x.outcome = .ok a) : x.FailsSilently := by
  intro e he
  rw [h] at he
  contradiction

theorem failsSilently_fail (e : ResolveError) : (fail e : Traced α).FailsSilently :=
  fun _ _ => log_fail e

theorem failsSilently_ofExcept_bind (r : Except ResolveError α) (h : ∀ a, (f a).FailsSilently) :
    (ofExcept r >>= f).FailsSilently := by
  cases r with
  | ok a => exact h a
  | error e => exact fun _ _ => log_ofExcept_error_bind e f

/-- A failure leaves the lines of the first part of the work, if the second one fails silently. -/
theorem log_bind_of_failsSilently (hf : ∀ a, (f a).FailsSilently) {e : ResolveError}
    (h : (x >>= f).outcome = .error e) : (x >>= f).log = x.log := by
  cases hx : x.outcome with
  | error _ => exact log_bind_of_error hx
  | ok a =>
    rw [bind_of_ok hx] at h
    rw [log_bind_of_ok hx, hf a e h, List.append_nil]

end Traced

/-- A warning names all legal types of the left parameter, if these are several and all parameters
of the comparison are found. -/
inductive AmbiguityLines (table : Table) (left : Text) (others : List Text) : List Line → Prop where
  | several {p : Parameter} {first second : ValueType} {rest : List ValueType} :
      table left = some p → (∀ n ∈ others, table n ≠ none) →
      [.string, .number, .boolean].filter p.isLegal = first :: second :: rest →
      AmbiguityLines table left others
        [(.warn, referTo left ++ " has several legal types (".toList ++
          List.intercalate [',', ' '] ((first :: second :: rest).map ValueType.name) ++
          "); comparing as ".toList ++ first.name)]
  | single {p : Parameter} : table left = some p →
      ([.string, .number, .boolean].filter p.isLegal).length < 2 →
      AmbiguityLines table left others []
  | absentLeft : table left = none → AmbiguityLines table left others []
  | absentOther {n : Text} : n ∈ others → table n = none → AmbiguityLines table left others []

/-- The values on both sides of a comparison, if it is made. -/
inductive SidesLines (table : Table) (s : Shape) (sides : Text) : List Line → Prop where
  | compared {u v : Scalar} : s.Compares table u v →
      SidesLines table s sides
        [(.trace, sides ++ ": ".toList ++ u.debug ++ " vs ".toList ++ v.debug)]
  | notCompared : (∀ u v, ¬s.Compares table u v) → SidesLines table s sides []

/-- The lines of a comparison. The warning does not depend on whether the comparison is made. -/
inductive ComparisonLines (table : Table) (s : Shape) (left : Text) (others : List Text)
    (sides : Text) : List Line → Prop where
  | warnedFirst {w c : List Line} : AmbiguityLines table left others w →
      SidesLines table s sides c → ComparisonLines table s left others sides (w ++ c)

/-- The branch that the condition of a choice selects, if the condition has a value. -/
inductive BranchLines (table : Table) (s : Shape) (choice : Text) : List Line → Prop where
  | taken {holds : Bool} {branch : Text} : s.condition? table = some holds →
      s.branch? holds = some branch →
      BranchLines table s choice [(.trace, choice ++ " took '".toList ++ branch ++ ['\''])]
  | notTaken : s.condition? table = none → BranchLines table s choice []

/-- The lines of the evaluation of a shape. -/
inductive EvaluationLines (table : Table) : Shape → List Line → Prop where
  | identity {name : Text} : EvaluationLines table (.identity name) []
  | equality {name rhs : Text} {l : List Line} :
      ComparisonLines table (.equality name rhs) name [] (referTo name ++ " == ".toList ++ rhs) l →
      EvaluationLines table (.equality name rhs) l
  | dualEquality {left right : Text} {l : List Line} :
      ComparisonLines table (.dualEquality left right) left [right]
        (referTo left ++ " == ".toList ++ referTo right) l →
      EvaluationLines table (.dualEquality left right) l
  | ternary {name rhs x y : Text} {l b : List Line} :
      EvaluationLines table (.equality name rhs) l →
      BranchLines table (.ternary name rhs x y) ("ternary on ".toList ++ referTo name) b →
      EvaluationLines table (.ternary name rhs x y) (l ++ b)
  | literalTernary {name x y : Text} {b : List Line} :
      BranchLines table (.literalTernary name x y)
        ("literal ternary on ".toList ++ referTo name) b →
      EvaluationLines table (.literalTernary name x y) b

/-- The lines of the resolution of an expression. -/
inductive ResolutionLines (table : Table) (wanted : ValueType) (e : Text) : List Line → Prop where
  | refused {err : ResolveError} : (classify e).outcome = .error err →
      ResolutionLines table wanted e []
  | resolved {s : Shape} {l : List Line} {v : Scalar} : (classify e).outcome = .ok s →
      EvaluationLines table s l → (resolve table wanted e).outcome = .ok v →
      ResolutionLines table wanted e
        ((.trace, "classified '".toList ++ e ++ "' as ".toList ++ s.kind.name) :: l ++
          [(.debug, "resolved ".toList ++ s.kind.name ++ " '".toList ++ e ++ "' to ".toList ++
            v.debug)])
  | failed {s : Shape} {l : List Line} {err : ResolveError} : (classify e).outcome = .ok s →
      EvaluationLines table s l → (resolve table wanted e).outcome = .error err →
      ResolutionLines table wanted e
        ((.trace, "classified '".toList ++ e ++ "' as ".toList ++ s.kind.name) :: l ++
          [(.debug, "failed to resolve ".toList ++ s.kind.name ++ " '".toList ++ e ++
            "': ".toList ++ err.message)])

/-- The warnings among some lines. -/
def warnings (l : List Line) : List Line := l.filter (·.1 = .warn)

/-- All parameters that a comparison needs are found, and the left one has several legal types. -/
def Table.Ambiguous (table : Table) (left : Text) (others : List Text) : Prop :=
  (∃ p, table left = some p ∧ 2 ≤ p.legalTypes.length) ∧ ∀ n ∈ others, table n ≠ none

section Warnings

variable {table : Table} {left : Text} {others : List Text} {l : List Line}

theorem Parameter.legalTypes_eq (p : Parameter) :
    p.legalTypes = [.string, .number, .boolean].filter p.isLegal := rfl

theorem Parameter.log_inferType_of_several {p : Parameter} {first second : ValueType}
    {rest : List ValueType} (h : p.legalTypes = first :: second :: rest) (name : Text) :
    (p.inferType name).log = [(.warn, referTo name ++ " has several legal types (".toList ++
      ValueType.describe (first :: second :: rest) ++ "); comparing as ".toList ++
      first.name)] := by
  rw [inferType, h]
  rfl

theorem Parameter.log_inferType_of_single {p : Parameter} (h : p.legalTypes.length < 2)
    (name : Text) : (p.inferType name).log = [] := by
  rcases hlegal : p.legalTypes with _ | ⟨first, _ | ⟨second, rest⟩⟩
  · rw [inferType, hlegal]
    rfl
  · rw [inferType, hlegal]
    rfl
  · rw [hlegal] at h
    exact absurd h (by simp)

/-- Where all parameters are found, the warning is the one that the inference of the type gives. -/
theorem ambiguityLines_iff {p : Parameter} (hp : table left = some p)
    (ho : ∀ n ∈ others, table n ≠ none) :
    (p.inferType left).log = l ↔ AmbiguityLines table left others l := by
  refine eq_iff_of_rules (fun l h => ?_) ?_ l
  · cases h with
    | several hp' _ hlegal =>
      obtain rfl := Option.some.inj (hp.symm.trans hp')
      exact Parameter.log_inferType_of_several hlegal left
    | single hp' hlegal =>
      obtain rfl := Option.some.inj (hp.symm.trans hp')
      exact Parameter.log_inferType_of_single hlegal left
    | absentLeft h => simp [hp] at h
    | absentOther hn h => exact absurd h (ho _ hn)
  · rcases hlegal : p.legalTypes with _ | ⟨first, _ | ⟨second, rest⟩⟩
    · exact ⟨_, .single hp (by simp [← Parameter.legalTypes_eq, hlegal])⟩
    · exact ⟨_, .single hp (by simp [← Parameter.legalTypes_eq, hlegal])⟩
    · exact ⟨_, .several hp ho hlegal⟩

/-- Where a parameter is lacking, nothing is said of the types of the left one. -/
theorem ambiguityLines_iff_of_absent (h : table left = none ∨ ∃ n ∈ others, table n = none) :
    [] = l ↔ AmbiguityLines table left others l := by
  refine eq_iff_of_rules (fun l hl => ?_) ?_ l
  · cases hl with
    | several hp ho =>
      rcases h with h | ⟨n, hn, h⟩
      · simp [h] at hp
      · exact absurd h (ho n hn)
    | single | absentLeft | absentOther => rfl
  · rcases h with h | ⟨n, hn, h⟩
    · exact ⟨[], .absentLeft h⟩
    · exact ⟨[], .absentOther hn h⟩

end Warnings

section Comparisons

variable {table : Table} {name rhs left right : Text} {u v : Scalar}

/-- After the type has been inferred, an equality writes nothing but what it compares. -/
theorem log_evaluateEquality_of_compares (h : (Shape.equality name rhs).Compares table u v)
    {p : Parameter} (hp : table name = some p) : (evaluateEquality table name rhs).log =
      (p.inferType name).log ++
        [(.trace, referTo name ++ " == ".toList ++ rhs ++ ": ".toList ++ u.debug ++
          " vs ".toList ++ v.debug)] := by
  obtain ⟨p', type, hp', ht, hread, hcoerce⟩ := compares_equality_iff.mp h
  obtain rfl : p = p' := Option.some.inj (hp.symm.trans hp')
  rw [evaluateEquality, Table.find_eq_ok_iff.mpr hp, Traced.ofExcept_ok_bind,
    Traced.log_bind_of_ok (Parameter.inferType_eq_ok_iff.mpr ht), hread, Traced.ofExcept_ok_bind,
    hcoerce, Traced.ofExcept_ok_bind, Traced.log_note_bind]
  rfl

theorem log_evaluateEquality_of_error {e : ResolveError}
    (h : (evaluateEquality table name rhs).outcome = .error e) {p : Parameter}
    (hp : table name = some p) :
    (evaluateEquality table name rhs).log = (p.inferType name).log := by
  rw [evaluateEquality, Table.find_eq_ok_iff.mpr hp, Traced.ofExcept_ok_bind] at h ⊢
  refine Traced.log_bind_of_failsSilently (fun type => ?_) h
  refine Traced.failsSilently_ofExcept_bind _ fun left => ?_
  refine Traced.failsSilently_ofExcept_bind _ fun right => ?_
  exact Traced.failsSilently_of_ok rfl

theorem log_evaluateEquality_of_absent (h : table name = none) :
    (evaluateEquality table name rhs).log = [] := by
  rw [evaluateEquality, Table.find_eq_error_iff.mpr ⟨h, rfl⟩, Traced.log_ofExcept_error_bind]

theorem log_evaluateDualEquality_of_compares
    (h : (Shape.dualEquality left right).Compares table u v) {l : Parameter}
    (hl : table left = some l) : (evaluateDualEquality table left right).log =
      (l.inferType left).log ++
        [(.trace, referTo left ++ " == ".toList ++ referTo right ++ ": ".toList ++ u.debug ++
          " vs ".toList ++ v.debug)] := by
  obtain ⟨l', r, type, hl', hr, ht, hlegal, hu, hv⟩ := compares_dualEquality_iff.mp h
  obtain rfl : l = l' := Option.some.inj (hl.symm.trans hl')
  have hleft : l.readAs left type = .ok u :=
    Parameter.readAs_eq_ok_iff.mpr ⟨l.isLegal_of_head? ht, hu⟩
  have hright : r.readAs right type = .ok v := Parameter.readAs_eq_ok_iff.mpr ⟨hlegal, hv⟩
  rw [evaluateDualEquality, Table.find_eq_ok_iff.mpr hl, Traced.ofExcept_ok_bind,
    Table.find_eq_ok_iff.mpr hr, Traced.ofExcept_ok_bind,
    Traced.log_bind_of_ok (Parameter.inferType_eq_ok_iff.mpr ht), if_pos hlegal, hleft,
    Traced.ofExcept_ok_bind, hright, Traced.ofExcept_ok_bind, Traced.log_note_bind]
  rfl

theorem log_evaluateDualEquality_of_error {e : ResolveError}
    (h : (evaluateDualEquality table left right).outcome = .error e) {l r : Parameter}
    (hl : table left = some l) (hr : table right = some r) :
    (evaluateDualEquality table left right).log = (l.inferType left).log := by
  rw [evaluateDualEquality, Table.find_eq_ok_iff.mpr hl, Traced.ofExcept_ok_bind,
    Table.find_eq_ok_iff.mpr hr, Traced.ofExcept_ok_bind] at h ⊢
  refine Traced.log_bind_of_failsSilently (fun type => ?_) h
  split
  · refine Traced.failsSilently_ofExcept_bind _ fun u => ?_
    refine Traced.failsSilently_ofExcept_bind _ fun v => ?_
    exact Traced.failsSilently_of_ok rfl
  · exact Traced.failsSilently_fail _

theorem log_evaluateDualEquality_of_absent (h : table left = none ∨ table right = none) :
    (evaluateDualEquality table left right).log = [] := by
  cases hl : table left with
  | none =>
    rw [evaluateDualEquality, Table.find_eq_error_iff.mpr ⟨hl, rfl⟩,
      Traced.log_ofExcept_error_bind]
  | some l =>
    have hr : table right = none := h.resolve_left (by simp [hl])
    rw [evaluateDualEquality, Table.find_eq_ok_iff.mpr hl, Traced.ofExcept_ok_bind,
      Table.find_eq_error_iff.mpr ⟨hr, rfl⟩, Traced.log_ofExcept_error_bind]

end Comparisons

section Rules

variable {table : Table} {wanted : ValueType} {s : Shape}

theorem exists_sidesLines (table : Table) (s : Shape) (sides : Text) :
    ∃ c, SidesLines table s sides c := by
  by_cases h : ∃ u v, s.Compares table u v
  · obtain ⟨u, v, h⟩ := h
    exact ⟨_, .compared h⟩
  · exact ⟨[], .notCompared fun u v huv => h ⟨u, v, huv⟩⟩

/-- Where a parameter is lacking nothing is written, else the warning that the inference of the type
gives, and the two values if it comes to compare them. -/
theorem log_comparison_iff {x : Traced Bool} {left sides : Text} {others : List Text}
    (habsent : (table left = none ∨ ∃ n ∈ others, table n = none) →
      x.log = [] ∧ ∀ u v, ¬s.Compares table u v)
    (hcompares : ∀ p u v, table left = some p → s.Compares table u v →
      x.log = (p.inferType left).log ++
        [(.trace, sides ++ ": ".toList ++ u.debug ++ " vs ".toList ++ v.debug)])
    (herror : ∀ p, table left = some p → (∀ n ∈ others, table n ≠ none) →
      (∀ u v, ¬s.Compares table u v) → x.log = (p.inferType left).log) (l : List Line) :
    x.log = l ↔ ComparisonLines table s left others sides l := by
  -- all names are looked up before the type is inferred, so a name that is lacking decides alone
  by_cases hlack : table left = none ∨ ∃ n ∈ others, table n = none
  · obtain ⟨hlog, hnot⟩ := habsent hlack
    refine eq_iff_of_rules (fun l h => ?_) ?_ l
    · obtain ⟨hw, hc⟩ := h
      obtain rfl := (ambiguityLines_iff_of_absent hlack).mpr hw
      cases hc with
      | compared h => exact absurd h (hnot _ _)
      | notCompared => exact hlog
    · exact ⟨_, .warnedFirst ((ambiguityLines_iff_of_absent hlack).mp rfl) (.notCompared hnot)⟩
  · rw [not_or, not_exists] at hlack
    obtain ⟨p, hp⟩ := Option.ne_none_iff_exists'.mp hlack.1
    have ho : ∀ n ∈ others, table n ≠ none := fun n hn h => hlack.2 n ⟨hn, h⟩
    refine eq_iff_of_rules (fun l h => ?_) ?_ l
    · obtain ⟨hw, hc⟩ := h
      obtain rfl := (ambiguityLines_iff hp ho).mpr hw
      cases hc with
      | compared h => exact hcompares p _ _ hp h
      | notCompared h => rw [herror p hp ho h, List.append_nil]
    · obtain ⟨c, hc⟩ := exists_sidesLines table s sides
      exact ⟨_, .warnedFirst ((ambiguityLines_iff hp ho).mp rfl) hc⟩

theorem log_evaluateEquality_iff {name rhs : Text} (l : List Line) :
    (evaluateEquality table name rhs).log = l ↔ EvaluationLines table (.equality name rhs) l := by
  have h : (evaluateEquality table name rhs).log = l ↔
      ComparisonLines table (.equality name rhs) name []
        (referTo name ++ " == ".toList ++ rhs) l := by
    refine log_comparison_iff ?_ ?_ ?_ l
    · rintro (h | ⟨n, hn, -⟩)
      · refine ⟨log_evaluateEquality_of_absent h, fun u v huv => ?_⟩
        obtain ⟨p, type, hp, -⟩ := compares_equality_iff.mp huv
        simp [h] at hp
      · simp at hn
    · intro p u v hp h
      exact log_evaluateEquality_of_compares h hp
    · intro p hp _ hnot
      cases hout : (evaluateEquality table name rhs).outcome with
      | ok c =>
        obtain ⟨u, v, huv, -⟩ := evaluateEquality_eq_ok_iff_compares.mp hout
        exact absurd huv (hnot u v)
      | error e => exact log_evaluateEquality_of_error hout hp
  rw [h]
  constructor
  · exact .equality
  · intro h
    cases h with
    | equality h => exact h

theorem log_evaluateDualEquality_iff {left right : Text} (l : List Line) :
    (evaluateDualEquality table left right).log = l ↔
      EvaluationLines table (.dualEquality left right) l := by
  have h : (evaluateDualEquality table left right).log = l ↔
      ComparisonLines table (.dualEquality left right) left [right]
        (referTo left ++ " == ".toList ++ referTo right) l := by
    refine log_comparison_iff ?_ ?_ ?_ l
    · intro h
      have habsent : table left = none ∨ table right = none := by simpa using h
      refine ⟨log_evaluateDualEquality_of_absent habsent, fun u v huv => ?_⟩
      obtain ⟨l, r, type, hl, hr, -⟩ := compares_dualEquality_iff.mp huv
      simp [hl, hr] at habsent
    · intro l u v hl h
      exact log_evaluateDualEquality_of_compares h hl
    · intro l hl ho hnot
      obtain ⟨r, hr⟩ := Option.ne_none_iff_exists'.mp (ho right (by simp))
      cases hout : (evaluateDualEquality table left right).outcome with
      | ok c =>
        obtain ⟨u, v, huv, -⟩ := evaluateDualEquality_eq_ok_iff_compares.mp hout
        exact absurd huv (hnot u v)
      | error e => exact log_evaluateDualEquality_of_error hout hl hr
  rw [h]
  constructor
  · exact .dualEquality
  · intro h
    cases h with
    | dualEquality h => exact h

/-- The condition of a ternary is whether the two values that it compares are equal. -/
theorem condition?_ternary_iff {name rhs x y : Text} {holds : Bool} :
    (Shape.ternary name rhs x y).condition? table = some holds ↔
      ∃ u v, (Shape.equality name rhs).Compares table u v ∧ u.sameValue v = holds :=
  toOption_eq_some_iff.trans evaluateEquality_eq_ok_iff_compares

theorem condition?_literalTernary_iff {name x y : Text} {holds : Bool} :
    (Shape.literalTernary name x y).condition? table = some holds ↔
      ∃ p, table name = some p ∧ p.legalBoolean = true ∧ p.asBoolean = some holds :=
  toOption_eq_some_iff.trans condition_eq_ok_iff

theorem exists_branchLines (table : Table) (s : Shape) (choice : Text) :
    ∃ l, BranchLines table s choice l := by
  cases hc : s.condition? table with
  | none => exact ⟨[], .notTaken hc⟩
  | some holds =>
    obtain ⟨branch, hb⟩ := Shape.exists_branch?_of_condition? hc holds
    exact ⟨_, .taken hc hb⟩

/-- The branch is written before it is read, so that its line does not depend on its value. -/
theorem log_evaluateTernary_iff {name rhs x y : Text} (l : List Line) :
    (evaluateTernary table wanted name rhs x y).log = l ↔
      EvaluationLines table (.ternary name rhs x y) l := by
  refine eq_iff_of_rules (fun l h => ?_) ?_ l
  · cases h with
    | ternary heq hbranch =>
      obtain rfl := (log_evaluateEquality_iff _).mpr heq
      cases hbranch with
      | @taken holds branch hc hb =>
        obtain rfl := Option.some.inj hb
        rw [evaluateTernary, Traced.log_bind_of_ok (toOption_eq_some_iff.mp hc),
          Traced.log_note_bind]
        rfl
      | notTaken hc =>
        obtain ⟨e, he⟩ := toOption_eq_none_iff.mp hc
        rw [evaluateTernary, Traced.log_bind_of_error he, List.append_nil]
  · obtain ⟨b, hb⟩ := exists_branchLines table (.ternary name rhs x y)
      ("ternary on ".toList ++ referTo name)
    exact ⟨_, .ternary ((log_evaluateEquality_iff _).mp rfl) hb⟩

theorem log_evaluateLiteralTernary_iff {name x y : Text} (l : List Line) :
    (evaluateLiteralTernary table wanted name x y).log = l ↔
      EvaluationLines table (.literalTernary name x y) l := by
  refine eq_iff_of_rules (fun l h => ?_) ?_ l
  · cases h with
    | literalTernary hbranch =>
      cases hbranch with
      | @taken holds branch hc hb =>
        obtain rfl := Option.some.inj hb
        rw [evaluateLiteralTernary, toOption_eq_some_iff.mp hc, Traced.ofExcept_ok_bind,
          Traced.log_note_bind]
        rfl
      | notTaken hc =>
        obtain ⟨e, he⟩ := toOption_eq_none_iff.mp hc
        rw [evaluateLiteralTernary, he, Traced.log_ofExcept_error_bind]
  · obtain ⟨b, hb⟩ := exists_branchLines table (.literalTernary name x y)
      ("literal ternary on ".toList ++ referTo name)
    exact ⟨b, .literalTernary hb⟩

/-- An answer is given without a further line. -/
theorem log_map_boolean (x : Traced Bool) :
    (x >>= fun b => (pure (.boolean b) : Traced Scalar)).log = x.log := by
  cases h : x.outcome with
  | ok b => rw [Traced.log_bind_of_ok h, Traced.log_pure, List.append_nil]
  | error e => exact Traced.log_bind_of_error h

/-- The rules for the lines describe evaluation, of whatever type. -/
theorem log_evaluate_iff (l : List Line) :
    (evaluate table wanted s).log = l ↔ EvaluationLines table s l := by
  cases s with
  | identity name =>
    constructor
    · rintro rfl
      exact .identity
    · intro h
      cases h
      rfl
  | equality name rhs =>
    rw [evaluate, log_map_boolean, log_evaluateEquality_iff]
  | dualEquality left right =>
    rw [evaluate, log_map_boolean, log_evaluateDualEquality_iff]
  | ternary name rhs x y => exact log_evaluateTernary_iff l
  | literalTernary name x y => exact log_evaluateLiteralTernary_iff l

theorem resolve_log_of_classify {e : Text} (h : (classify e).outcome = .ok s) :
    (resolve table wanted e).log =
      (.trace, "classified '".toList ++ e ++ "' as ".toList ++ s.kind.name) ::
        (evaluate table wanted s).log ++
          [((closing e s.kind (resolve table wanted e).outcome).level,
            (closing e s.kind (resolve table wanted e).outcome).message)] := by
  have hclassify := classify_eq_ok_iff.mp h
  have hlog : (classify e).log =
      [(.trace, "classified '".toList ++ e ++ "' as ".toList ++ s.kind.name)] := by
    rw [classify, hclassify]
    rfl
  rw [resolve_outcome, hclassify, resolve, Traced.log_bind_of_ok h, hlog]
  simp [Traced.log]

theorem resolve_log_iff {e : Text} (l : List Line) :
    (resolve table wanted e).log = l ↔ ResolutionLines table wanted e l := by
  refine eq_iff_of_rules (fun l h => ?_) ?_ l
  · cases h with
    | refused h =>
      rw [resolve, Traced.log_bind_of_error h]
      unfold classify at h ⊢
      cases hs : classify? e with
      | none => rfl
      | some s => simp [hs] at h
    | resolved hs hl hv =>
      rw [resolve_log_of_classify hs, hv, (log_evaluate_iff _).mpr hl]
      rfl
    | failed hs hl herr =>
      rw [resolve_log_of_classify hs, herr, (log_evaluate_iff _).mpr hl]
      rfl
  · cases hs : (classify e).outcome with
    | error err => exact ⟨[], .refused hs⟩
    | ok s =>
      have hl : EvaluationLines table s (evaluate table wanted s).log :=
        (log_evaluate_iff _).mp rfl
      cases hv : (resolve table wanted e).outcome with
      | ok v => exact ⟨_, .resolved hs hl hv⟩
      | error err => exact ⟨_, .failed hs hl hv⟩

end Rules

section Warned

variable {table : Table} {wanted : ValueType} {s : Shape} {left sides choice : Text}
  {others : List Text} {l : List Line} {e : Text}

@[simp] theorem warnings_nil : warnings [] = [] := rfl

@[simp] theorem warnings_cons (r : Line) (l : List Line) :
    warnings (r :: l) = if r.1 = .warn then r :: warnings l else warnings l := by
  simp [warnings, List.filter_cons]

@[simp] theorem warnings_append (l m : List Line) : warnings (l ++ m) = warnings l ++ warnings m :=
  List.filter_append l m

theorem BranchLines.warnings_eq (h : BranchLines table s choice l) : warnings l = [] := by
  cases h <;> simp

theorem SidesLines.warnings_eq (h : SidesLines table s sides l) : warnings l = [] := by
  cases h <;> simp

theorem AmbiguityLines.warnings_spec (h : AmbiguityLines table left others l) :
    (warnings l).length ≤ 1 ∧ (warnings l ≠ [] ↔ table.Ambiguous left others) := by
  cases h with
  | several hp ho hlegal =>
    simp only [warnings_cons, if_pos, warnings_nil, List.length_singleton, le_refl, true_and]
    exact iff_of_true (by simp) ⟨⟨_, hp, by simp [Parameter.legalTypes_eq, hlegal]⟩, ho⟩
  | single hp hlegal =>
    refine ⟨by simp, iff_of_false (by simp) ?_⟩
    rintro ⟨⟨p, hp', hlength⟩, -⟩
    obtain rfl := Option.some.inj (hp.symm.trans hp')
    exact absurd hlegal (not_lt.mpr hlength)
  | absentLeft hp =>
    refine ⟨by simp, iff_of_false (by simp) ?_⟩
    rintro ⟨⟨p, hp', -⟩, -⟩
    simp [hp] at hp'
  | absentOther hn hp => exact ⟨by simp, iff_of_false (by simp) fun h => h.2 _ hn hp⟩

theorem ComparisonLines.warnings_spec (h : ComparisonLines table s left others sides l) :
    (warnings l).length ≤ 1 ∧ (warnings l ≠ [] ↔ table.Ambiguous left others) := by
  obtain ⟨hw, hc⟩ := h
  rw [warnings_append, hc.warnings_eq, List.append_nil]
  exact hw.warnings_spec

/-- The shapes that compare warn of their left parameter, the others of none. -/
theorem EvaluationLines.warnings_spec (h : EvaluationLines table s l) :
    (warnings l).length ≤ 1 ∧ (warnings l ≠ [] ↔ s.kind ≠ .identity ∧ s.kind ≠ .literalTernary ∧
      ∃ left others, s.subjects = left :: others ∧ table.Ambiguous left others) := by
  cases h with
  | identity => simp [Shape.kind]
  | equality h => simpa [Shape.kind, Shape.subjects] using h.warnings_spec
  | dualEquality h => simpa [Shape.kind, Shape.subjects] using h.warnings_spec
  | ternary h hb =>
    rw [warnings_append, hb.warnings_eq, List.append_nil]
    cases h with
    | equality h => simpa [Shape.kind, Shape.subjects] using h.warnings_spec
  | literalTernary hb => simp [hb.warnings_eq, Shape.kind]

theorem warnings_resolve (h : (classify e).outcome = .ok s) :
    warnings (resolve table wanted e).log = warnings (evaluate table wanted s).log := by
  have hclosing : (closing e s.kind (resolve table wanted e).outcome).level ≠ .warn := by
    cases (resolve table wanted e).outcome <;> simp [closing, Record.level]
  rw [resolve_log_of_classify h, List.cons_append, warnings_cons, if_neg (by simp),
    warnings_append, warnings_cons, if_neg hclosing, warnings_nil, List.append_nil]

theorem warnings_resolve_spec (table : Table) (wanted : ValueType) (e : Text) :
    (warnings (resolve table wanted e).log).length ≤ 1 ∧
    (warnings (resolve table wanted e).log ≠ [] ↔ ∃ s left others, (classify e).outcome = .ok s ∧
      s.kind ≠ .identity ∧ s.kind ≠ .literalTernary ∧ s.subjects = left :: others ∧
      table.Ambiguous left others) := by
  cases hs : (classify e).outcome with
  | error err =>
    rw [(resolve_log_iff _).mpr (.refused hs)]
    simp
  | ok s =>
    rw [warnings_resolve hs]
    simpa using ((log_evaluate_iff _).mp rfl : EvaluationLines table s
      (evaluate table wanted s).log).warnings_spec

end Warned

/-- What a resolution writes to the log is what the rules say and nothing else, over any table. A
comparison has a result exactly if there are two values to write, and says whether they stand for
the same. That is the condition of a ternary as well. The condition of a literal ternary is what a
parameter that is legal as a boolean yields as one. There is at most one warning, and one exactly
where a comparison or a ternary finds its parameters and the left one has several legal types. -/
theorem resolution_log (table : Table) (wanted : ValueType) (e : Text) :
    (∀ l, (resolve table wanted e).log = l ↔ ResolutionLines table wanted e l) ∧
    (∀ name rhs c, (evaluateEquality table name rhs).outcome = .ok c ↔
      ∃ u v, (Shape.equality name rhs).Compares table u v ∧ u.sameValue v = c) ∧
    (∀ left right c, (evaluateDualEquality table left right).outcome = .ok c ↔
      ∃ u v, (Shape.dualEquality left right).Compares table u v ∧ u.sameValue v = c) ∧
    (∀ u v : Scalar, u.sameValue v = true ↔ ∃ m, u.meaning? = some m ∧ v.meaning? = some m) ∧
    (∀ name rhs x y holds, (Shape.ternary name rhs x y).condition? table = some holds ↔
      ∃ u v, (Shape.equality name rhs).Compares table u v ∧ u.sameValue v = holds) ∧
    (∀ name x y holds, (Shape.literalTernary name x y).condition? table = some holds ↔
      ∃ p, table name = some p ∧ p.legalBoolean = true ∧ p.asBoolean = some holds) ∧
    (warnings (resolve table wanted e).log).length ≤ 1 ∧
    (warnings (resolve table wanted e).log ≠ [] ↔ ∃ s left others, (classify e).outcome = .ok s ∧
      s.kind ≠ .identity ∧ s.kind ≠ .literalTernary ∧ s.subjects = left :: others ∧
      table.Ambiguous left others) :=
  ⟨resolve_log_iff, fun _ _ _ => evaluateEquality_eq_ok_iff_compares,
    fun _ _ _ => evaluateDualEquality_eq_ok_iff_compares, fun _ _ => Scalar.sameValue_iff,
    fun _ _ _ _ _ => condition?_ternary_iff, fun _ _ _ _ => condition?_literalTernary_iff,
    warnings_resolve_spec table wanted e⟩

/-- The branch is written although it refers to a parameter that the table lacks. -/
example :
    let e := openMark ++ " params.n == \"x\" ? params.m : 7 ".toList ++ closeMark
    let p : Parameter := ⟨true, false, true, some ['x'], none, none⟩
    let table : Table := fun name => if name = ['n'] then some p else none
    (resolve table .number e).log =
      [(.trace, "classified '".toList ++ e ++ "' as ternary".toList),
       (.warn, "params.n has several legal types (string, boolean); comparing as string".toList),
       (.trace, "params.n == \"x\": String(\"x\") vs String(\"x\")".toList),
       (.trace, "ternary on params.n took 'params.m'".toList),
       (.debug, "failed to resolve ternary '".toList ++ e ++
         "': Unresolvable reference: params.m".toList)] := by
  decide +kernel

end ParameterTemplates
