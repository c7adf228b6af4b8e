import ParameterTemplates.Command.Load
import ParameterTemplates.Proofs.Blanks

/-! Assignments of the command line. They are read one after the other, and each sets what it says,
so of several assignments of one name the last one counts, and the first that is malformed is what
is reported. -/
namespace ParameterTemplates
open Template Text

theorem Bindings.find?_eq_none_iff {α : Type} {b : Bindings α} {n : Text} :
    b.find? n = none ↔ n ∉ b.names := by
  simp only [Bindings.find?, List.lookup_eq_none_iff, Bindings.names, List.mem_map, not_exists,
    not_and, bne_iff_ne]
  exact forall₂_congr fun p _ => ne_comm

section Loops

variable {ι α ε : Type} {n : Text} {v : α}

/-- A list splits at its first element, or its tail splits. -/
theorem exists_split_cons {R : List ι → ι → List ι → Prop} {x : ι} {items : List ι} :
    (∃ before y after, x :: items = before ++ y :: after ∧ R before y after) ↔
      R [] x items ∨ ∃ before y after, items = before ++ y :: after ∧ R (x :: before) y after := by
  constructor
  · rintro ⟨before, y, after, h, hr⟩
    rcases List.cons_eq_append_iff.mp h with ⟨rfl, h⟩ | ⟨before, rfl, rfl⟩
    · obtain ⟨rfl, rfl⟩ := List.cons.inj h
      exact .inl hr
    · exact .inr ⟨before, y, after, rfl, hr⟩
  · rintro (hr | ⟨before, y, after, rfl, hr⟩)
    · exact ⟨[], x, items, rfl, hr⟩
    · exact ⟨x :: before, y, after, rfl, hr⟩

/-- No item says anything of a name. -/
def Silent (gives : ι → Text → α → Prop) (items : List ι) (n : Text) : Prop :=
  ∀ x ∈ items, ∀ w, ¬ gives x n w

/-- Of the items that say something of a name the last one says what its value is. -/
def GivesLast (gives : ι → Text → α → Prop) (items : List ι) (n : Text) (v : α) : Prop :=
  ∃ before x after, items = before ++ x :: after ∧ gives x n v ∧ Silent gives after n

theorem givesLast_cons {gives : ι → Text → α → Prop} {x : ι} {items : List ι} :
    GivesLast gives (x :: items) n v ↔
      gives x n v ∧ Silent gives items n ∨ GivesLast gives items n v :=
  exists_split_cons

theorem silent_cons {gives : ι → Text → α → Prop} {x : ι} {items : List ι} :
    Silent gives (x :: items) n ↔ (∀ w, ¬ gives x n w) ∧ Silent gives items n :=
  List.forall_mem_cons

/-- Sets what each item says, until one cannot be read. -/
def setEach (read : ι → Except ε (Text × α)) (b : Bindings α) (items : List ι) :
    Except ε (Bindings α) :=
  items.foldlM (fun b x => (read x).map fun (n, v) => b.set n v) b

variable {read : ι → Except ε (Text × α)} {b b' : Bindings α} {x : ι} {items : List ι}

theorem setEach_cons_of_ok {m : Text} {u : α} (h : read x = .ok (m, u)) :
    setEach read b (x :: items) = setEach read (b.set m u) items := by
  rw [setEach, List.foldlM_cons, h]
  rfl

theorem setEach_cons_of_error {e : ε} (h : read x = .error e) :
    setEach read b (x :: items) = .error e := by
  rw [setEach, List.foldlM_cons, h]
  rfl

theorem exists_setEach_iff :
    (∃ b', setEach read b items = .ok b') ↔ ∀ x ∈ items, ∃ n v, read x = .ok (n, v) := by
  induction items generalizing b with
  | nil => exact ⟨fun _ _ hx => absurd hx List.not_mem_nil, fun _ => ⟨b, rfl⟩⟩
  | cons x items ih =>
    rw [List.forall_mem_cons]
    cases h : read x with
    | error e => simp [setEach_cons_of_error h]
    | ok p =>
      obtain ⟨m, u⟩ := p
      simp [setEach_cons_of_ok h, ih]

/-- The first item that cannot be read stops the loop. -/
theorem setEach_eq_error_iff {e : ε} : setEach read b items = .error e ↔
    ∃ before x after, items = before ++ x :: after ∧
      (∀ y ∈ before, ∃ n v, read y = .ok (n, v)) ∧ read x = .error e := by
  induction items generalizing b with
  | nil => simp [setEach, pure, Except.pure]
  | cons x items ih =>
    rw [exists_split_cons]
    cases h : read x with
    | error e' => simp [setEach_cons_of_error h, h]
    | ok p =>
      obtain ⟨m, u⟩ := p
      simp [setEach_cons_of_ok h, ih, h]

/-- After the loop a name has the value that the last item on it says, and without such an item the
value from before. -/
theorem find?_setEach (h : setEach read b items = .ok b') :
    b'.find? n = some v ↔ GivesLast (fun x n v => read x = .ok (n, v)) items n v ∨
      Silent (fun x n v => read x = .ok (n, v)) items n ∧ b.find? n = some v := by
  induction items generalizing b with
  | nil =>
    obtain rfl := Except.ok.inj h
    simp [GivesLast, Silent]
  | cons x items ih =>
    cases hx : read x with
    | error e => simp [setEach_cons_of_error hx] at h
    | ok p =>
      obtain ⟨m, u⟩ := p
      rw [setEach_cons_of_ok hx] at h
      rw [ih h, givesLast_cons, silent_cons, Bindings.find?_set, hx]
      by_cases hn : n = m
      · subst hn
        simp [and_comm, or_comm, eq_comm]
      · simp [hn, Ne.symm hn]

theorem mem_names_setEach (h : setEach read b items = .ok b') :
    n ∈ b'.names ↔ n ∈ b.names ∨ ∃ x ∈ items, ∃ v, read x = .ok (n, v) := by
  induction items generalizing b with
  | nil =>
    obtain rfl := Except.ok.inj h
    simp
  | cons x items ih =>
    cases hx : read x with
    | error e => simp [setEach_cons_of_error hx] at h
    | ok p =>
      obtain ⟨m, u⟩ := p
      rw [setEach_cons_of_ok hx] at h
      have hset : n ∈ (b.set m u).names ↔ n ∈ b.names ∨ n = m := by
        rw [Bindings.names_set]
        split <;> simp_all
      simp [ih h, hset, hx, or_assoc, eq_comm]

end Loops

namespace Command

/-- An assignment sets the trimmed text before its first equals sign to the value of all that
follows. -/
inductive Assigns : Text → Text → Scalar → Prop where
  | mk {left raw : Text} : '=' ∉ left → ¬ IsGap left →
      Assigns (left ++ '=' :: raw) (trim left) (inlineValue raw)

/-- What is wrong with a text that is no assignment. -/
inductive AssignmentFault : Text → LoadError → Prop where
  | noEquals {t : Text} : '=' ∉ t → AssignmentFault t (.noEquals t)
  | noName {left raw : Text} : '=' ∉ left → IsGap left →
      AssignmentFault (left ++ '=' :: raw) (.noName (left ++ '=' :: raw))

section Assignments

variable {t n : Text} {v : Scalar}

theorem assignment_of_not_mem (h : '=' ∉ t) : assignment t = .error (.noEquals t) := by
  have hdrop : t.dropWhile (· != '=') = [] := by
    rw [List.dropWhile_eq_nil_iff]
    intro c hc
    exact bne_iff_ne.mpr fun heq => h (heq ▸ hc)
  simp only [assignment, hdrop]

/-- The first equals sign is where an assignment is cut. -/
theorem cut_append {left : Text} (h : '=' ∉ left) (raw : Text) :
    (left ++ '=' :: raw).dropWhile (· != '=') = '=' :: raw ∧
      (left ++ '=' :: raw).takeWhile (· != '=') = left := by
  have hleft : ∀ c ∈ left, (c != '=') = true := fun c hc => bne_iff_ne.mpr fun heq => h (heq ▸ hc)
  have hstop : ∀ c ∈ ('=' :: raw).head?, (c != '=') = false := by simp
  exact ⟨dropWhile_append_eq hleft hstop, takeWhile_append_eq hleft hstop⟩

theorem assignment_of_assigns (h : Assigns t n v) : assignment t = .ok (n, v) := by
  cases h with
  | @mk left raw hleft hgap =>
    obtain ⟨hdrop, htake⟩ := cut_append hleft raw
    obtain ⟨c, name, hname⟩ := List.exists_cons_of_ne_nil (mt trim_eq_nil_iff.mp hgap)
    simp only [assignment, hdrop, htake, hname]

theorem assignment_of_fault {e : LoadError} (h : AssignmentFault t e) : assignment t = .error e := by
  cases h with
  | noEquals h => exact assignment_of_not_mem h
  | @noName left raw hleft hgap =>
    obtain ⟨hdrop, htake⟩ := cut_append hleft raw
    simp only [assignment, hdrop, htake, trim_eq_nil_iff.mpr hgap]

theorem assigns_or_fault (t : Text) : (∃ n v, Assigns t n v) ∨ ∃ e, AssignmentFault t e := by
  by_cases h : '=' ∈ t
  · obtain ⟨left, raw, rfl, hleft⟩ := List.eq_append_cons_of_mem h
    by_cases hgap : IsGap left
    · exact .inr ⟨_, .noName hleft hgap⟩
    · exact .inl ⟨_, _, .mk hleft hgap⟩
  · exact .inr ⟨_, .noEquals h⟩

theorem assignment_eq_ok_iff : assignment t = .ok (n, v) ↔ Assigns t n v := by
  refine ⟨fun h => ?_, assignment_of_assigns⟩
  rcases assigns_or_fault t with ⟨m, u, hassigns⟩ | ⟨e, hfault⟩
  · rw [assignment_of_assigns hassigns] at h
    cases h
    exact hassigns
  · rw [assignment_of_fault hfault] at h
    contradiction

theorem assignment_eq_error_iff {e : LoadError} :
    assignment t = .error e ↔ AssignmentFault t e := by
  refine ⟨fun h => ?_, assignment_of_fault⟩
  rcases assigns_or_fault t with ⟨m, u, hassigns⟩ | ⟨e', hfault⟩
  · rw [assignment_of_assigns hassigns] at h
    contradiction
  · rw [assignment_of_fault hfault] at h
    cases h
    exact hfault

theorem Assigns.unique {m : Text} {w : Scalar} (h : Assigns t n v) (h' : Assigns t m w) :
    n = m ∧ v = w := by
  have heq := (assignment_of_assigns h).symm.trans (assignment_of_assigns h')
  exact Prod.mk.inj (Except.ok.inj heq)

theorem exists_assign_iff {b : Bindings Scalar} {ts : List Text} :
    (∃ b', assign b ts = .ok b') ↔ ∀ t ∈ ts, ∃ n v, Assigns t n v := by
  simp only [← assignment_eq_ok_iff]
  exact exists_setEach_iff

theorem assign_eq_error_iff {b : Bindings Scalar} {ts : List Text} {e : LoadError} :
    assign b ts = .error e ↔ ∃ before t after, ts = before ++ t :: after ∧
      (∀ u ∈ before, ∃ n v, Assigns u n v) ∧ AssignmentFault t e := by
  simp only [← assignment_eq_ok_iff, ← assignment_eq_error_iff]
  exact setEach_eq_error_iff

/-- The last assignment of a name counts, and without one what was there before. -/
theorem find?_assign {b b' : Bindings Scalar} {ts : List Text} (h : assign b ts = .ok b') :
    b'.find? n = some v ↔ GivesLast Assigns ts n v ∨ Silent Assigns ts n ∧ b.find? n = some v := by
  have hassigns : Assigns = fun t n v => assignment t = .ok (n, v) := by
    funext t n v
    exact propext assignment_eq_ok_iff.symm
  rw [hassigns]
  exact find?_setEach h

theorem mem_names_assign {b b' : Bindings Scalar} {ts : List Text} (h : assign b ts = .ok b') :
    n ∈ b'.names ↔ n ∈ b.names ∨ ∃ t ∈ ts, ∃ v, Assigns t n v := by
  simp only [← assignment_eq_ok_iff]
  exact mem_names_setEach h

end Assignments

end Command
end ParameterTemplates
