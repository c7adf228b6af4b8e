import ParameterTemplates.Proofs.Reads

/-! What does not bear on a resolution: entries of the table that are not looked up, and the branch
that is not selected, which may be replaced by any other operand. -/
namespace ParameterTemplates
open Template

namespace Template

/-- A choice with another operand in place of one of its branches. -/
def Shape.setBranch (holds : Bool) (o : Text) : Shape → Shape
  | .ternary name rhs x y => if holds then .ternary name rhs o y else .ternary name rhs x o
  | .literalTernary name x y => if holds then .literalTernary name o y else .literalTernary name x o
  | s => s

variable {s : Shape} {e branch o : Text} {holds : Bool}

/-- A branch stands in one place of the text, where any other operand may stand. -/
theorem Written.setBranch (h : Written s e) (hb : s.branch? holds = some branch) :
    ∃ p q, e = p ++ branch ++ q ∧
      ∀ o, IsOperand o → Written (s.setBranch holds o) (p ++ o ++ q) := by
  cases h with
  | identity | equality | dualEquality => contradiction
  | @ternary name rhs x y a b c d e f g i hn ho hx hy ha hb' hc hd he hf hg hi =>
    cases holds with
    | true =>
      obtain rfl := Option.some.inj hb
      refine ⟨openMark ++ a ++ referTo name ++ b ++ ['=', '='] ++ c ++ rhs ++ d ++ ['?'] ++ e,
        f ++ [':'] ++ g ++ y ++ i ++ closeMark, by simp, fun o hop => ?_⟩
      simpa [Shape.setBranch] using Written.ternary hn ho hop hy ha hb' hc hd he hf hg hi
    | false =>
      obtain rfl := Option.some.inj hb
      refine ⟨openMark ++ a ++ referTo name ++ b ++ ['=', '='] ++ c ++ rhs ++ d ++ ['?'] ++ e ++
        x ++ f ++ [':'] ++ g, i ++ closeMark, by simp, fun o hop => ?_⟩
      simpa [Shape.setBranch] using Written.ternary hn ho hx hop ha hb' hc hd he hf hg hi
  | @literalTernary name x y a b c d e f hn hx hy ha hb' hc hd he hf =>
    cases holds with
    | true =>
      obtain rfl := Option.some.inj hb
      refine ⟨openMark ++ a ++ referTo name ++ b ++ ['?'] ++ c,
        d ++ [':'] ++ e ++ y ++ f ++ closeMark, by simp, fun o hop => ?_⟩
      simpa [Shape.setBranch] using Written.literalTernary hn hop hy ha hb' hc hd he hf
    | false =>
      obtain rfl := Option.some.inj hb
      refine ⟨openMark ++ a ++ referTo name ++ b ++ ['?'] ++ c ++ x ++ d ++ [':'] ++ e,
        f ++ closeMark, by simp, fun o hop => ?_⟩
      simpa [Shape.setBranch] using Written.literalTernary hn hx hop ha hb' hc hd he hf

theorem Shape.kind_setBranch (holds : Bool) (o : Text) (s : Shape) :
    (s.setBranch holds o).kind = s.kind := by
  cases s <;> cases holds <;> rfl

theorem Shape.kind_of_branch? (h : s.branch? holds = some branch) :
    s.kind = .ternary ∨ s.kind = .literalTernary := by
  cases s with
  | ternary => exact .inl rfl
  | literalTernary => exact .inr rfl
  | identity | equality | dualEquality => contradiction

theorem classify?_setBranch (h : classify? e = some s) (hb : s.branch? holds = some branch) :
    ∃ p q, e = p ++ branch ++ q ∧
      ∀ o, IsOperand o → classify? (p ++ o ++ q) = some (s.setBranch holds o) := by
  obtain ⟨p, q, he, hwritten⟩ := (written_of_classify? h).setBranch hb
  refine ⟨p, q, he, fun o ho => classify?_eq_some_iff.mpr ⟨hwritten o ho, fun hk => ?_⟩⟩
  rw [Shape.kind_setBranch] at hk
  rcases Shape.kind_of_branch? hb with h | h <;> rw [h] at hk <;> contradiction

theorem Shape.exists_branch?_of_condition? {table : Table} (h : s.condition? table = some holds)
    (c : Bool) : ∃ branch, s.branch? c = some branch := by
  cases s with
  | ternary => exact ⟨_, rfl⟩
  | literalTernary => exact ⟨_, rfl⟩
  | identity | equality | dualEquality => contradiction

end Template

variable {table : Table} {wanted : ValueType} {s : Shape} {holds : Bool}

/-- The branch that is not selected does not bear on the value or on the records. -/
theorem evaluate_setBranch (h : s.condition? table = some holds) (o : Text) :
    evaluate table wanted (s.setBranch (!holds) o) = evaluate table wanted s := by
  have hok {r : Except ResolveError Bool} {c : Bool} (hr : r.toOption = some holds)
      (hc : r = .ok c) : c = holds := by
    simpa [hc, Except.toOption] using hr
  cases s with
  | identity | equality | dualEquality => rfl
  | ternary name rhs x y =>
    cases holds <;> exact Traced.bind_congr fun c hc => by
      obtain rfl := hok h hc
      rfl
  | literalTernary name x y =>
    cases holds <;> exact Traced.bind_congr fun c hc => by
      obtain rfl := hok h hc
      rfl

/-- A name that resolution does not look up may stand for anything. -/
theorem resolve_congr_of_not_mem {t₁ t₂ : Table} {e n : Text} (hn : n ∉ namesRead t₁ e)
    (h : ∀ m, m ≠ n → t₁ m = t₂ m) : resolve t₁ wanted e = resolve t₂ wanted e := by
  refine resolve_congr fun m hm => h m ?_
  rintro rfl
  exact hn hm

/-- Resolution depends on what it looks up and on nothing else, neither in its outcome nor in its
records. Of a choice whose condition has a value, the branch that is not selected and the name in
it do not matter, and further names in the table matter only where one was found to be absent. -/
theorem resolve_noninterference (t₁ : Table) (wanted : ValueType) (e : Text) :
    (∀ t₂, Table.AgreeOn (namesRead t₁ e) t₁ t₂ → resolve t₁ wanted e = resolve t₂ wanted e) ∧
    (∀ s holds, (classify e).outcome = .ok s → s.condition? t₁ = some holds →
      (∀ n, n ∉ s.subjects →
        (∀ taken, s.branch? holds = some taken → reference? taken ≠ some n) →
        ∀ t₂, (∀ m, m ≠ n → t₁ m = t₂ m) → resolve t₁ wanted e = resolve t₂ wanted e) ∧
      ∃ p left q, s.branch? (!holds) = some left ∧ e = p ++ left ++ q ∧
        ∀ o, IsOperand o →
          (classify (p ++ o ++ q)).outcome = .ok (s.setBranch (!holds) o) ∧
          evaluate t₁ wanted (s.setBranch (!holds) o) = evaluate t₁ wanted s ∧
          (resolve t₁ wanted (p ++ o ++ q)).outcome = (resolve t₁ wanted e).outcome) ∧
    ∀ t₂, (∀ n p, t₁ n = some p → t₂ n = some p) →
      (∀ n, (resolve t₁ wanted e).outcome ≠ .error (.unresolved n)) →
      resolve t₂ wanted e = resolve t₁ wanted e := by
  refine ⟨fun t₂ h => resolve_congr h, fun s holds hs hc => ⟨?_, ?_⟩, fun t₂ hext hfound => ?_⟩
  · intro n hsubject htaken t₂ h
    refine resolve_congr_of_not_mem ?_ h
    rw [namesRead, classify_eq_ok_iff.mp hs]
    intro hn
    rcases Shape.mem_reads_iff.mp hn with hn | hn
    · exact hsubject hn
    · obtain ⟨c, taken, hc', hb, hr⟩ := Shape.selected?_eq_some_iff.mp hn
      obtain rfl : holds = c := Option.some.inj (hc.symm.trans hc')
      exact htaken taken hb hr
  · have hs' := classify_eq_ok_iff.mp hs
    obtain ⟨left, hb⟩ := Shape.exists_branch?_of_condition? hc (!holds)
    obtain ⟨p, q, he, hset⟩ := classify?_setBranch hs' hb
    refine ⟨p, left, q, hb, he, fun o ho => ?_⟩
    have heval : evaluate t₁ wanted (s.setBranch (!holds) o) = evaluate t₁ wanted s :=
      evaluate_setBranch hc o
    refine ⟨classify_eq_ok_iff.mpr (hset o ho), heval, ?_⟩
    simp only [resolve_outcome, hset o ho, hs', heval]
  · refine (resolve_congr fun n hn => ?_).symm
    -- with no name absent, every name that is looked up is there, and stays there
    have hnone : t₁.firstAbsent? (namesRead t₁ e) = none :=
      Option.eq_none_iff_forall_ne_some.mpr fun m hm =>
        hfound m (resolve_eq_unresolved_iff.mpr hm)
    obtain ⟨p, hp⟩ := Option.ne_none_iff_exists'.mp (Table.firstAbsent?_eq_none_iff.mp hnone n hn)
    rw [hp, hext n p hp]

/-- A table with one of the two names in the branches, and a table with both. -/
theorem resolve_noninterference_flag :
    let e := "\x7b\x7b params.f ? params.a : params.b \x7d\x7d".toList
    let flag := (Bindings.empty.set ['f'] (.boolean true)).set ['a'] (.string ['x'])
    let both := flag.set ['b'] (.string ['y'])
    flag.table ['b'] ≠ both.table ['b'] ∧
      Table.AgreeOn (namesRead flag.table e) flag.table both.table ∧
      resolve flag.table .string e = resolve both.table .string e ∧
      (∃ p left q, e = p ++ left ++ q ∧ ∀ o, IsOperand o →
        (resolve flag.table .string (p ++ o ++ q)).outcome = .ok (.string ['x'])) ∧
      ∀ table : Table, (∀ n p, flag.table n = some p → table n = some p) →
        resolve table .string e = resolve flag.table .string e := by
  intro e flag both
  obtain ⟨hagree, hchoice, hextend⟩ := resolve_noninterference flag.table .string e
  have hread : Table.AgreeOn (namesRead flag.table e) flag.table both.table := by decide +kernel
  have hvalue : (resolve flag.table .string e).outcome = .ok (.string ['x']) := by decide +kernel
  obtain ⟨-, p, left, q, -, he, hset⟩ := hchoice
    (.literalTernary ['f'] "params.a".toList "params.b".toList) true (by decide +kernel)
    (by decide +kernel)
  refine ⟨by decide +kernel, hread, hagree _ hread, ⟨p, left, q, he, fun o ho => ?_⟩,
    fun table hext => hextend table hext fun n => ?_⟩
  · rw [(hset o ho).2.2, hvalue]
  · simp [hvalue]

end ParameterTemplates
