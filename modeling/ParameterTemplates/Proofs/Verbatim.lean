import ParameterTemplates.Proofs.Conditions

/-! Texts in quotes mean themselves. Whatever stands between the quotes of a comparison or of a
choice, separators, marks and escapes among it, is compared and yielded as it is written. -/
namespace ParameterTemplates
open Template Text

namespace Template

/-- Without a quote to read, a search inside of a string stays there and finds no question mark. -/
theorem ScanMode.finds_eq_false_of_forall_ne {m : ScanMode} {s : Text} (hm : m ≠ outside)
    (hs : ∀ c ∈ s, c ≠ '"') : m.finds s = false := by
  induction s generalizing m with
  | nil => rfl
  | cons c s ih =>
    have hnext : m.next c ≠ outside := by
      cases m with
      | outside => exact absurd rfl hm
      | inside =>
        rw [next, if_neg (hs c (by simp))]
        split <;> simp
      | escaping => simp [next]
    simp [finds, hm, ih hnext fun d hd => hs d (by simp [hd])]

/-- A backslash at the end may escape the closing quote; nothing follows that could be found. -/
theorem hasOpenQuestion_inQuotes {s : Text} (hs : '"' ∉ s) :
    hasOpenQuestion (inQuotes s) = false := by
  have hfinds : ScanMode.inside.finds s = false :=
    ScanMode.finds_eq_false_of_forall_ne (by decide) fun c hc he => hs (he ▸ hc)
  rw [hasOpenQuestion_eq_finds, inQuotes, List.cons_append]
  change ScanMode.inside.finds (s ++ ['"']) = false
  rw [ScanMode.finds_append, hfinds, Bool.false_or]
  cases ScanMode.inside.after s <;> rfl

theorem isRightSide_inQuotes {s c d : Text} (hline : '\n' ∉ s) (hc : IsGap c) (hd : IsGap d) :
    IsRightSide (c ++ inQuotes s ++ d) (inQuotes s) := by
  have hhead : SolidHead (inQuotes s) := solidHead_cons.mpr (by decide)
  have hlast : SolidLast (inQuotes s) :=
    (solidLast_append _ (by simp)).mpr (solidLast_singleton.mpr (by decide))
  exact .trimmed hc hd (by simp [inQuotes]) hhead hlast (by simp [inQuotes, hline])

theorem isOperand_inQuotes {r : Text} (h : IsQuotedBody r) : IsOperand (inQuotes r) :=
  .inl ⟨r, h, rfl⟩

variable {name : Text}

/-- A comparison with a text in quotes, with any blanks between its parts. -/
theorem classify?_quoted_equality {s a b c d : Text} (hn : IsName name) (hquote : '"' ∉ s)
    (hline : '\n' ∉ s) (ha : IsGap a) (hb : IsGap b) (hc : IsGap c) (hd : IsGap d) :
    classify? (openMark ++ a ++ referTo name ++ b ++ ['=', '='] ++ (c ++ inQuotes s ++ d) ++
      closeMark) = some (.equality name (inQuotes s)) :=
  classify?_eq_equality_iff.mpr
    ⟨.equality hn ha hb (isRightSide_inQuotes hline hc hd) (hasOpenQuestion_inQuotes hquote),
      reference?_inQuotes s⟩

end Template

section Resolution

variable {table : Table} {wanted : ValueType} {name r s v : Text} {p : Parameter}

/-- A branch in quotes is a string and nothing else. -/
theorem Table.branchValue_inQuotes (table : Table) (wanted : ValueType) (s : Text) :
    table.branchValue wanted (inQuotes s) =
      if wanted = .string then .ok (.string s) else .error (.malformed (inQuotes s) wanted) := by
  simp only [branchValue, reference?_inQuotes]
  split
  · next h => rw [h, Literal.coerce_inQuotes]
  · next h =>
    -- the quote is a character that no number and no boolean is written with
    refine Literal.coerce_eq_error_iff.mpr ⟨fun v hv => h ?_, rfl⟩
    have hread := (Literal.coerce_eq_ok_iff.mp hv).2
    exact (Literal.inQuotes_of_read? hread (c := '"') (by simp [inQuotes]) (by decide)).1

theorem resolve_quoted_equality {e : Text} (he : classify? e = some (.equality name (inQuotes s)))
    (hp : table name = some p) (ht : p.legalTypes.head? = some .string)
    (hv : p.asString = some v) : (resolve table wanted e).outcome = .ok (.boolean (v == s)) := by
  simp only [resolve_outcome, he, evaluate_equality_outcome, evaluateEquality_inQuotes hp ht hv]
  rfl

theorem resolve_quoted_choice {e x y : Text}
    (he : classify? e = some (.ternary name (inQuotes r) x y)) (hp : table name = some p)
    (ht : p.legalTypes.head? = some .string) (hv : p.asString = some v) :
    (resolve table wanted e).outcome = table.branchValue wanted (if v = r then x else y) := by
  rw [resolve_outcome, he]
  refine (evaluateTernary_outcome table wanted name _ x y).trans ?_
  rw [evaluateEquality_inQuotes hp ht hv]
  simp only [Bind.bind, Except.bind, beq_iff_eq]

end Resolution

/-- Over a table whose parameter is first of all a string, a comparison with a text in quotes is
true of exactly that text, whatever type is wanted. A choice on such a comparison yields the text of
the branch that is taken, and fails on that branch if no string is wanted. No escape is removed. -/
theorem quoted_texts_verbatim {name v : Text} (hn : IsName name) {table : Table} {p : Parameter}
    (hp : table name = some p) (ht : p.legalTypes.head? = some .string) (hv : p.asString = some v)
    (wanted : ValueType) :
    (∀ s a b c d, '"' ∉ s → '\n' ∉ s → (∀ t ∈ [a, b, c, d], IsGap t) →
      (resolve table wanted (openMark ++ a ++ referTo name ++ b ++ ['=', '='] ++
        (c ++ inQuotes s ++ d) ++ closeMark)).outcome = .ok (.boolean (v == s))) ∧
    ∀ r x y a b c d e f g h, IsQuotedBody r → IsQuotedBody x → IsQuotedBody y →
      (∀ t ∈ [a, b, c, d, e, f, g, h], IsGap t) →
      (resolve table wanted (openMark ++ a ++ referTo name ++ b ++ ['=', '='] ++ c ++ inQuotes r ++
        d ++ ['?'] ++ e ++ inQuotes x ++ f ++ [':'] ++ g ++ inQuotes y ++ h ++ closeMark)).outcome =
          if wanted = .string then .ok (.string (if v = r then x else y))
          else .error (.malformed (inQuotes (if v = r then x else y)) wanted) := by
  constructor
  · intro s a b c d hquote hline hgaps
    simp only [List.forall_mem_cons] at hgaps
    obtain ⟨ha, hb, hc, hd, -⟩ := hgaps
    exact resolve_quoted_equality (classify?_quoted_equality hn hquote hline ha hb hc hd) hp ht hv
  · intro r x y a b c d e f g h hr hx hy hgaps
    simp only [List.forall_mem_cons] at hgaps
    obtain ⟨ha, hb, hc, hd, he, hf, hg, hh, -⟩ := hgaps
    have hwritten := Written.ternary hn (isOperand_inQuotes hr) (isOperand_inQuotes hx)
      (isOperand_inQuotes hy) ha hb hc hd he hf hg hh
    have hs := classify?_eq_some_iff.mpr ⟨hwritten, fun hk => nomatch hk⟩
    rw [resolve_quoted_choice hs hp ht hv, ← Table.branchValue_inQuotes table wanted]
    split <;> rfl

/-- Marks, separators and a backslash in a comparison, and escapes that stay in the branches of a
choice without blanks. -/
theorem quoted_texts_verbatim_marks :
    let s : Text := [' ', '?', ':', '=', '=', '}', '}', '\\']
    let r : Text := ['\\', '"', '?']
    let table : Table := fun _ => some ⟨true, true, false, some s, some (.ofInt 1), none⟩
    let equality : Text := openMark ++ " params.n == ".toList ++ inQuotes s ++ [' '] ++ closeMark
    let choice : Text := openMark ++ "params.n==".toList ++ inQuotes r ++ ['?'] ++
      inQuotes ['a'] ++ [':'] ++ inQuotes r ++ closeMark
    (resolve table .number equality).outcome = .ok (.boolean true) ∧
      (resolve table .string choice).outcome = .ok (.string r) ∧
      (resolve table .boolean choice).outcome = .error (.malformed (inQuotes r) .boolean) := by
  intro s r table equality choice
  have hbody : IsQuotedBody r := .escaped (by decide) (.plain (by decide) (by decide) .nil)
  have ha : IsQuotedBody ['a'] := .plain (by decide) (by decide) .nil
  have hn : IsName ['n'] := by decide
  have hp : table ['n'] = some ⟨true, true, false, some s, some (.ofInt 1), none⟩ := rfl
  have hequality := (quoted_texts_verbatim hn hp rfl rfl .number).1 s [' '] [' '] [' '] [' ']
    (by decide) (by decide) (by decide)
  have hchoice (wanted : ValueType) := (quoted_texts_verbatim hn hp rfl rfl wanted).2 r ['a'] r
    [] [] [] [] [] [] [] [] hbody ha hbody (by decide)
  have he : openMark ++ [' '] ++ referTo ['n'] ++ [' '] ++ ['=', '='] ++
      ([' '] ++ inQuotes s ++ [' ']) ++ closeMark = equality := by decide
  have hc : openMark ++ [] ++ referTo ['n'] ++ [] ++ ['=', '='] ++ [] ++ inQuotes r ++ [] ++
      ['?'] ++ [] ++ inQuotes ['a'] ++ [] ++ [':'] ++ [] ++ inQuotes r ++ [] ++ closeMark =
        choice := by decide
  rw [he] at hequality
  simp only [hc] at hchoice
  exact ⟨hequality, hchoice .string, hchoice .boolean⟩

end ParameterTemplates
