import Mathlib.Data.List.Induction
import ParameterTemplates.Proofs.Reads

/-! The names that an expression is said to refer to are those that some resolution of it can lack:
no resolution asks for another name, and save where a condition has no value over any table, each
of them is asked for over some table. -/
namespace ParameterTemplates
open Template

section Duplicates

variable {α : Type} [BEq α] [LawfulBEq α]

/-- Of equal elements the first one is kept, and all that are kept keep their order. -/
theorem pairwise_idxOf_eraseDups (l : List α) :
    l.eraseDups.Pairwise fun a b => l.idxOf a < l.idxOf b := by
  induction l using List.reverseRecOn with
  | nil => simp
  | append_singleton l c ih =>
    have hold : ∀ a ∈ l, (l ++ [c]).idxOf a = l.idxOf a := fun a ha => by
      rw [List.idxOf_append, if_pos ha]
    rw [List.eraseDups_append, List.pairwise_append]
    refine ⟨ih.imp_of_mem fun {a b} ha hb hab => ?_, ?_, fun a ha b hb => ?_⟩
    · rwa [hold a (List.mem_eraseDups.mp ha), hold b (List.mem_eraseDups.mp hb)]
    · by_cases hc : c ∈ l <;> simp [List.removeAll, hc, List.eraseDups_cons]
    · have ha' := List.mem_eraseDups.mp ha
      have hb' : b = c ∧ b ∉ l := by simpa [List.removeAll] using hb
      rw [hold a ha', List.idxOf_append, if_neg hb'.2]
      have := List.idxOf_lt_length_of_mem ha'
      omega

theorem nodup_eraseDups (l : List α) : l.eraseDups.Nodup :=
  (pairwise_idxOf_eraseDups l).imp fun {a b} h hab => by simp [hab] at h

end Duplicates

namespace Template.Shape

/-- The names that the operands refer to, in the order in which the operands stand. -/
def mentions : Shape → List Text
  | .identity name => [name]
  | .equality name _ => [name]
  | .dualEquality left right => [left, right]
  | .ternary name _ x y => name :: ((reference? x).toList ++ (reference? y).toList)
  | .literalTernary name x y => name :: ((reference? x).toList ++ (reference? y).toList)

theorem parameters_eq_eraseDups (s : Shape) : s.parameters = s.mentions.eraseDups := by
  cases s <;> simp [parameters, mentions, List.eraseDups_cons]

variable {table : Table} {s : Shape} {n : Text}

theorem mem_mentions_iff : n ∈ s.mentions ↔ n ∈ s.subjects ∨
    ∃ holds branch, s.branch? holds = some branch ∧ reference? branch = some n := by
  cases s <;> simp [mentions, subjects, branch?, or_comm]

theorem mem_parameters_iff : n ∈ s.parameters ↔ n ∈ s.mentions := by
  rw [parameters_eq_eraseDups, List.mem_eraseDups]

theorem pairwise_parameters (s : Shape) :
    s.parameters.Pairwise fun m n => s.mentions.idxOf m < s.mentions.idxOf n := by
  rw [parameters_eq_eraseDups]
  exact pairwise_idxOf_eraseDups _

theorem mem_mentions_of_mem_reads (h : n ∈ s.reads table) : n ∈ s.mentions := by
  rcases mem_reads_iff.mp h with h | h
  · exact mem_mentions_iff.mpr (.inl h)
  · obtain ⟨holds, branch, -, hb, hr⟩ := selected?_eq_some_iff.mp h
    exact mem_mentions_iff.mpr (.inr ⟨holds, branch, hb, hr⟩)

end Template.Shape

/-- Save for NaN, of the type of a value there are one that is the same and one that is not. -/
theorem Scalar.exists_sameValue_eq {v : Scalar} (hv : v ≠ .number .nan) (same : Bool) :
    ∃ u : Scalar, u.type = v.type ∧ u.sameValue v = same := by
  cases same with
  | true =>
    refine ⟨v, rfl, ?_⟩
    cases v with
    | string s => simp [sameValue]
    | number x => cases x <;> simp_all [sameValue, Binary64.sameNumber]
    | boolean b => simp [sameValue]
  | false =>
    cases v with
    | string s => exact ⟨.string ('x' :: s), rfl, by simp [sameValue]⟩
    | number x => exact ⟨.number .nan, rfl, by simp [sameValue, Binary64.sameNumber]⟩
    | boolean b => exact ⟨.boolean (!b), rfl, by simp [sameValue]⟩

theorem Literal.ne_nan_of_read? {wanted : ValueType} {t : Text} {v : Scalar}
    (h : Literal.read? wanted t = some v) : v ≠ .number .nan := by
  rintro rfl
  obtain rfl : ValueType.number = wanted := Literal.type_of_read? h
  simp only [Literal.read?, Literal.number?] at h
  split at h
  · obtain ⟨hfinite, h⟩ := Option.ite_none_right_eq_some.mp h
    cases h
    contradiction
  · contradiction

/-- One parameter under every name but one. -/
def Table.lacking (n : Text) (p : Parameter) : Table := fun m => if m = n then none else some p

theorem Table.firstAbsent?_lacking {n : Text} {p : Parameter} {names : List Text} (h : n ∈ names) :
    (Table.lacking n p).firstAbsent? names = some n := by
  cases hf : (Table.lacking n p).firstAbsent? names with
  | none => exact absurd (if_pos rfl) (Table.firstAbsent?_eq_none_iff.mp hf n h)
  | some m =>
    obtain ⟨-, hm⟩ := Table.of_firstAbsent?_eq_some hf
    rw [Table.lacking, ite_eq_left_iff] at hm
    simpa using hm

namespace Template.Shape

variable {s : Shape} {n : Text}

/-- A choice on an equality compares with a literal of some type. -/
def HasLiteral : Shape → Prop
  | .ternary _ rhs _ _ => ∃ type v, Literal.coerce type rhs = .ok v
  | _ => True

/-- The condition of a choice takes either value over tables that have its name. -/
theorem exists_condition?_lacking {holds : Bool} {branch : Text} (hs : s.HasLiteral)
    (hb : s.branch? holds = some branch) (hn : n ∉ s.subjects) :
    ∃ p, s.condition? (.lacking n p) = some holds := by
  cases s with
  | ternary name rhs x y =>
    obtain ⟨type, v, hv⟩ := hs
    have hread := (Literal.coerce_eq_ok_iff.mp hv).2
    obtain ⟨u, htype, hsame⟩ := Scalar.exists_sameValue_eq (Literal.ne_nan_of_read? hread) holds
    have hname : name ≠ n := by simpa [subjects, eq_comm] using hn
    rw [← Literal.type_of_read? hread, ← htype] at hv
    refine ⟨.ofScalar u, ?_⟩
    rw [condition?, evaluateEquality_of_value (if_neg hname) hv, hsame]
    rfl
  | literalTernary name x y =>
    have hname : name ≠ n := by simpa [subjects, eq_comm] using hn
    refine ⟨.ofScalar (.boolean holds), ?_⟩
    rw [condition?, condition, Table.find_eq_ok_iff.mpr (if_neg hname)]
    rfl
  | identity | equality | dualEquality => contradiction

theorem exists_mem_reads (hs : s.HasLiteral) (hn : n ∈ s.mentions) :
    ∃ p, n ∈ s.reads (.lacking n p) := by
  by_cases hsub : n ∈ s.subjects
  · exact ⟨.ofScalar (.boolean true), mem_reads_iff.mpr (.inl hsub)⟩
  · obtain ⟨holds, branch, hb, hr⟩ := (mem_mentions_iff.mp hn).resolve_left hsub
    obtain ⟨p, hp⟩ := exists_condition?_lacking hs hb hsub
    exact ⟨p, mem_reads_iff.mpr (.inr (selected?_eq_some_iff.mpr ⟨holds, branch, hp, hb, hr⟩))⟩

/-- Without a literal to compare with no branch is selected. -/
theorem reads_eq_of_not_hasLiteral (hs : ¬s.HasLiteral) (table : Table) :
    s.reads table = s.subjects := by
  cases s with
  | ternary name rhs x y =>
    cases hc : (evaluateEquality table name rhs).outcome with
    | ok holds =>
      obtain ⟨p, type, left, right, -, -, -, hright, -⟩ := evaluateEquality_eq_ok_iff.mp hc
      exact absurd ⟨type, right, hright⟩ hs
    | error e => simp [reads, selected?, condition?, hc, Except.toOption]
  | identity | equality | dualEquality | literalTernary => exact absurd trivial hs

end Template.Shape

theorem referencedParameters_eq_ok {e : Text} {s : Shape} (h : (classify e).outcome = .ok s) :
    (referencedParameters e).outcome = .ok s.parameters :=
  Traced.outcome_bind_eq_ok.mpr ⟨s, h, rfl⟩

/-- The names that an expression is said to refer to are listed once each, as its operands stand.
Resolution fails for no other name, and for each of them over some table, unless the expression is
a choice on an equality with no literal: that one fails for its first name only. -/
theorem referencedParameters_exact {e : Text} {s : Shape} (h : (classify e).outcome = .ok s) :
    ∃ names, (referencedParameters e).outcome = .ok names ∧
      names.Nodup ∧
      (∀ n, n ∈ names ↔ n ∈ s.mentions) ∧
      names.Pairwise (fun m n => s.mentions.idxOf m < s.mentions.idxOf n) ∧
      (∀ table wanted n, (resolve table wanted e).outcome = .error (.unresolved n) →
        n ∈ names ∧ table n = none) ∧
      (∀ table wanted, (∀ n ∈ names, table n ≠ none) →
        ∀ n, (resolve table wanted e).outcome ≠ .error (.unresolved n)) ∧
      (s.HasLiteral → ∀ n ∈ names, ∃ table, ∀ wanted,
        (resolve table wanted e).outcome = .error (.unresolved n)) ∧
      (¬s.HasLiteral → ∀ table wanted n,
        (resolve table wanted e).outcome = .error (.unresolved n) → n ∈ s.subjects) := by
  have hmem : ∀ n, n ∈ s.parameters ↔ n ∈ s.mentions := fun n => by
    rw [s.parameters_eq_eraseDups, List.mem_eraseDups]
  have hreads : ∀ table, namesRead table e = s.reads table := fun table => by
    rw [namesRead, classify_eq_ok_iff.mp h]
  have hsound : ∀ table wanted n, (resolve table wanted e).outcome = .error (.unresolved n) →
      n ∈ s.reads table ∧ table n = none := by
    intro table wanted n hn
    rw [← hreads]
    exact Table.of_firstAbsent?_eq_some (resolve_eq_unresolved_iff.mp hn)
  refine ⟨s.parameters, referencedParameters_eq_ok h, ?_, hmem, ?_, ?_, ?_, ?_, ?_⟩
  · rw [s.parameters_eq_eraseDups]
    exact nodup_eraseDups _
  · rw [s.parameters_eq_eraseDups]
    exact pairwise_idxOf_eraseDups _
  · intro table wanted n hn
    obtain ⟨hread, habsent⟩ := hsound table wanted n hn
    exact ⟨(hmem n).mpr (Shape.mem_mentions_of_mem_reads hread), habsent⟩
  · intro table wanted hpresent n hn
    obtain ⟨hread, habsent⟩ := hsound table wanted n hn
    exact hpresent n ((hmem n).mpr (Shape.mem_mentions_of_mem_reads hread)) habsent
  · intro hs n hn
    obtain ⟨p, hp⟩ := Shape.exists_mem_reads hs ((hmem n).mp hn)
    refine ⟨.lacking n p, fun wanted => resolve_eq_unresolved_iff.mpr ?_⟩
    rw [hreads]
    exact Table.firstAbsent?_lacking hp
  · intro hs table wanted n hn
    rw [← Shape.reads_eq_of_not_hasLiteral hs table]
    exact (hsound table wanted n hn).1

/-- The branch that is taken when the condition fails refers to the name in the condition. -/
theorem referencedParameters_exact_repeated :
    (classify "\x7b\x7b params.a == true ? params.b : params.a \x7d\x7d".toList).outcome =
      .ok (.ternary ['a'] "true".toList "params.b".toList "params.a".toList) ∧
    ∃ names, (referencedParameters
        "\x7b\x7b params.a == true ? params.b : params.a \x7d\x7d".toList).outcome = .ok names ∧
      names.Nodup ∧ (∀ n, n ∈ names ↔ n ∈ [['a'], ['b'], ['a']]) ∧
      ∀ n ∈ names, ∃ table, ∀ wanted, (resolve table wanted
        "\x7b\x7b params.a == true ? params.b : params.a \x7d\x7d".toList).outcome =
          .error (.unresolved n) := by
  have h : (classify "\x7b\x7b params.a == true ? params.b : params.a \x7d\x7d".toList).outcome =
      .ok (.ternary ['a'] "true".toList "params.b".toList "params.a".toList) := by decide +kernel
  obtain ⟨names, hnames, hnodup, hmem, -, -, -, htight, -⟩ := referencedParameters_exact h
  exact ⟨h, names, hnames, hnodup, hmem, htight ⟨.boolean, .boolean true, by decide⟩⟩

end ParameterTemplates
