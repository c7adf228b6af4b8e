import ParameterTemplates.Proofs.Blanks

/-! Operands: the reader takes exactly the quoted and bare texts of the grammar, and a text leaves
one place only where an operand can end. -/
namespace ParameterTemplates.Template
open Text

theorem isBare_of_isBlank {c : Char} (h : isBlank c = true) : isBare c = true := by
  have hc : ∀ d, isBlank d = false → c ≠ d := by
    rintro d hd rfl
    simp [h] at hd
  simp only [isBare, Bool.and_eq_true, bne_iff_ne]
  exact ⟨⟨hc _ (by decide), hc _ (by decide)⟩, hc _ (by decide)⟩

theorem isBlank_eq_false_of_not_isBare {c : Char} (h : isBare c = false) : isBlank c = false :=
  Bool.eq_false_iff.mpr fun hb => by simp [isBare_of_isBlank hb] at h

theorem solidHead_of_not_isBare {t : Text} (h : ∀ c ∈ t.head?, isBare c = false) : SolidHead t :=
  fun c hc => isBlank_eq_false_of_not_isBare (h c hc)

theorem IsQuotedOperand.ne_nil {o : Text} (h : IsQuotedOperand o) : o ≠ [] := by
  obtain ⟨body, -, rfl⟩ := h
  simp

theorem IsQuotedOperand.solidHead {o : Text} (h : IsQuotedOperand o) : SolidHead o := by
  obtain ⟨body, -, rfl⟩ := h
  exact solidHead_cons.mpr (by decide)

theorem IsQuotedOperand.solidLast {o : Text} (h : IsQuotedOperand o) : SolidLast o := by
  obtain ⟨body, -, rfl⟩ := h
  exact (solidLast_append _ (by simp)).mpr (solidLast_singleton.mpr (by decide))

theorem IsOperand.ne_nil {o : Text} (h : IsOperand o) : o ≠ [] :=
  h.elim IsQuotedOperand.ne_nil IsBareOperand.nonempty

theorem IsOperand.solidHead {o : Text} (h : IsOperand o) : SolidHead o :=
  h.elim IsQuotedOperand.solidHead IsBareOperand.head

theorem IsOperand.solidLast {o : Text} (h : IsOperand o) : SolidLast o :=
  h.elim IsQuotedOperand.solidLast IsBareOperand.last

theorem quotedRest?_body {body : Text} (h : IsQuotedBody body) (rest : Text) :
    quotedRest? (body ++ '"' :: rest) = some (body ++ ['"'], rest) := by
  induction h with
  | nil => rfl
  | plain _ hb _ ih => simp [quotedRest?, hb, ih]
  | escaped hn _ ih => simp [quotedRest?, hn, ih]

theorem quotedRest?_eq_some_iff {t q rest : Text} : quotedRest? t = some (q, rest) ↔
    ∃ body, IsQuotedBody body ∧ q = body ++ ['"'] ∧ t = body ++ '"' :: rest := by
  constructor
  · intro h
    fun_induction quotedRest? t generalizing q with
    | case1 => simp at h
    | case2 t =>
      simp only [Option.some.injEq, Prod.mk.injEq] at h
      obtain ⟨rfl, rfl⟩ := h
      exact ⟨[], .nil, rfl, rfl⟩
    | case3 => simp at h
    | case4 c t hc ih =>
      obtain ⟨⟨q', rest'⟩, hq, he⟩ := Option.map_eq_some_iff.mp h
      simp only [Prod.mk.injEq] at he
      obtain ⟨rfl, rfl⟩ := he
      obtain ⟨body, hb, rfl, rfl⟩ := ih hq
      exact ⟨'\\' :: c :: body, .escaped hc hb, rfl, rfl⟩
    | case5 => simp at h
    | case6 c t hquote _ hslash ih =>
      obtain ⟨⟨q', rest'⟩, hq, he⟩ := Option.map_eq_some_iff.mp h
      simp only [Prod.mk.injEq] at he
      obtain ⟨rfl, rfl⟩ := he
      obtain ⟨body, hb, rfl, rfl⟩ := ih hq
      exact ⟨c :: body, .plain hquote hslash hb, rfl, rfl⟩
  · rintro ⟨body, hb, rfl, rfl⟩
    exact quotedRest?_body hb rest

/-- The longest run of bare characters, without the blanks at its end. -/
theorem isBareOperand_takeWhile {t : Text} (ht : SolidHead t)
    (hn : dropBlanksRight (t.takeWhile isBare) ≠ []) :
    IsBareOperand (dropBlanksRight (t.takeWhile isBare)) := by
  obtain ⟨g, -, hg⟩ := exists_dropBlanksRight_append_gap (t.takeWhile isBare)
  refine ⟨hn, fun c hc => ?_, ?_, solidLast_dropBlanksRight _⟩
  · have hc' : c ∈ t.takeWhile isBare := by
      rw [hg]
      exact List.mem_append_left g hc
    exact List.mem_takeWhile_imp hc'
  · apply solidHead_dropBlanksRight
    by_cases h : t.takeWhile isBare = []
    · rw [h]
      exact solidHead_nil
    · rwa [← List.takeWhile_append_dropWhile (p := isBare) (l := t), solidHead_append h] at ht

/-- An operand ends at its closing quote, or else where the bare characters end. -/
def OperandStops (o rest : Text) : Prop :=
  IsQuotedOperand o ∨ IsBareOperand o ∧ ∀ c ∈ rest.head?, isBare c = false

theorem OperandStops.isOperand {o rest : Text} (h : OperandStops o rest) : IsOperand o :=
  h.imp_right And.left

theorem exists_of_operand? {t o rest : Text} (h : operand? t = some (o, rest)) :
    ∃ a b, IsGap a ∧ IsGap b ∧ t = a ++ o ++ b ++ rest ∧ SolidHead rest ∧ OperandStops o rest := by
  obtain ⟨a, ha, hat⟩ := exists_gap_append_dropBlanks t
  have hsolid := solidHead_dropBlanks t
  unfold operand? at h
  split at h
  · next r hr =>
    obtain ⟨⟨q, rest'⟩, hq, he⟩ := Option.map_eq_some_iff.mp h
    simp only [Prod.mk.injEq] at he
    obtain ⟨rfl, rfl⟩ := he
    obtain ⟨body, hbody, rfl, rfl⟩ := quotedRest?_eq_some_iff.mp hq
    obtain ⟨b, hb, hbr⟩ := exists_gap_append_dropBlanks rest'
    refine ⟨a, b, ha, hb, ?_, solidHead_dropBlanks _, .inl ⟨body, hbody, rfl⟩⟩
    rw [hat, hr, List.append_assoc, ← hbr]
    simp
  · split at h
    · contradiction
    · next hne =>
      simp only [Option.some.injEq, Prod.mk.injEq] at h
      obtain ⟨rfl, rfl⟩ := h
      obtain ⟨b, hb, hbt⟩ := exists_dropBlanksRight_append_gap ((dropBlanks t).takeWhile isBare)
      have hstop := head?_dropWhile (p := isBare) (dropBlanks t)
      refine ⟨a, b, ha, hb, ?_, solidHead_of_not_isBare hstop,
        .inr ⟨isBareOperand_takeWhile hsolid hne, hstop⟩⟩
      rw [List.append_assoc a, ← hbt, List.append_assoc, List.takeWhile_append_dropWhile, ← hat]

theorem operand?_eq {a o b rest : Text} (ha : IsGap a) (hb : IsGap b) (hr : SolidHead rest)
    (h : OperandStops o rest) : operand? (a ++ o ++ b ++ rest) = some (o, rest) := by
  have hdrop : dropBlanks (a ++ o ++ b ++ rest) = o ++ (b ++ rest) := by
    rw [List.append_assoc, List.append_assoc]
    exact dropBlanks_eq ha ((solidHead_append h.isOperand.ne_nil _).mpr h.isOperand.solidHead)
  rcases h with ⟨body, hbody, rfl⟩ | ⟨ho, hstop⟩
  · have hread := quotedRest?_body hbody (b ++ rest)
    simp only [operand?, hdrop]
    simp [hread, dropBlanks_eq hb hr]
  · obtain ⟨c, o', rfl⟩ := List.exists_cons_of_ne_nil ho.nonempty
    have hc : c ≠ '"' := by
      rintro rfl
      exact absurd (ho.bare '"' (by simp)) (by decide)
    have hall : ∀ d ∈ (c :: o') ++ b, isBare d = true := by
      intro d hd
      rcases List.mem_append.mp hd with hd | hd
      · exact ho.bare d hd
      · exact isBare_of_isBlank (hb d hd)
    have htake : ((c :: o') ++ (b ++ rest)).takeWhile isBare = (c :: o') ++ b := by
      rw [← List.append_assoc, takeWhile_append_eq hall hstop]
    have hdropWhile : ((c :: o') ++ (b ++ rest)).dropWhile isBare = rest := by
      rw [← List.append_assoc, dropWhile_append_eq hall hstop]
    have htrim : dropBlanksRight ((c :: o') ++ b) = c :: o' := dropBlanksRight_eq ho.last hb
    simp only [operand?, hdrop]
    split
    · next r he =>
      simp only [List.cons_append, List.cons.injEq] at he
      exact absurd he.1 hc
    · simp only [htake, htrim, hdropWhile]

/-- An operand stands before a separator, whichever way it is written. -/
theorem operandBefore?_eq_some_iff {separator : Char} (hs : isBare separator = false)
    {t o rest : Text} : operandBefore? separator t = some (o, rest) ↔
      ∃ a b, IsGap a ∧ IsGap b ∧ IsOperand o ∧ t = a ++ o ++ b ++ separator :: rest := by
  constructor
  · intro h
    unfold operandBefore? at h
    split at h
    · next o' c rest' ho =>
      simp only [Option.ite_none_right_eq_some, Option.some.injEq, Prod.mk.injEq] at h
      obtain ⟨rfl, rfl, rfl⟩ := h
      obtain ⟨a, b, ha, hb, rfl, -, hstop⟩ := exists_of_operand? ho
      exact ⟨a, b, ha, hb, hstop.isOperand, rfl⟩
    · contradiction
  · rintro ⟨a, b, ha, hb, ho, rfl⟩
    have hsolid : SolidHead (separator :: rest) :=
      solidHead_cons.mpr (isBlank_eq_false_of_not_isBare hs)
    have hstop : OperandStops o (separator :: rest) :=
      ho.imp_right fun h => ⟨h, by simpa using hs⟩
    have hread := operand?_eq ha hb hsolid hstop
    simp only [operandBefore?, hread, if_pos]

/-- Which operand stands before a separator is settled by the text. -/
theorem operand_append_cancel {separator : Char} (hs : isBare separator = false)
    {a b a' b' o o' rest rest' : Text} (ha : IsGap a) (hb : IsGap b) (ho : IsOperand o)
    (ha' : IsGap a') (hb' : IsGap b') (ho' : IsOperand o')
    (h : a ++ o ++ b ++ separator :: rest = a' ++ o' ++ b' ++ separator :: rest') :
    o = o' ∧ rest = rest' := by
  have hread : operandBefore? separator (a ++ o ++ b ++ separator :: rest) = some (o, rest) :=
    (operandBefore?_eq_some_iff hs).mpr ⟨a, b, ha, hb, ho, rfl⟩
  have hread' := (operandBefore?_eq_some_iff hs).mpr ⟨a', b', ha', hb', ho', h⟩
  rw [hread, Option.some.injEq, Prod.mk.injEq] at hread'
  exact hread'

theorem lastOperand?_eq_some_iff {t o : Text} : lastOperand? t = some o ↔
    ∃ a b, IsGap a ∧ IsGap b ∧ IsOperand o ∧ t = a ++ o ++ b := by
  constructor
  · intro h
    unfold lastOperand? at h
    split at h
    · next o' ho =>
      obtain rfl := Option.some.inj h
      obtain ⟨a, b, ha, hb, rfl, -, hstop⟩ := exists_of_operand? ho
      exact ⟨a, b, ha, hb, hstop.isOperand, List.append_nil _⟩
    · contradiction
  · rintro ⟨a, b, ha, hb, ho, rfl⟩
    have hstop : OperandStops o [] := ho.imp_right fun h => ⟨h, by simp⟩
    have hread := operand?_eq ha hb solidHead_nil hstop
    rw [List.append_nil] at hread
    simp only [lastOperand?, hread]

theorem IsQuotedOperand.not_isBareOperand {o : Text} (h : IsQuotedOperand o) :
    ¬IsBareOperand o := by
  obtain ⟨body, -, rfl⟩ := h
  intro hb
  exact absurd (hb.bare '"' (by simp)) (by decide)

/-- A text that begins with a bare character is an operand if all of it is bare. -/
theorem lastOperand?_bare_iff {a t o : Text} {c : Char} (ha : IsGap a) (hb : isBlank c = false)
    (hc : isBare c = true) : lastOperand? (a ++ c :: t) = some o ↔
      (∀ d ∈ c :: t, isBare d = true) ∧ o = dropBlanksRight (c :: t) := by
  rw [lastOperand?_eq_some_iff]
  constructor
  · rintro ⟨a', b, ha', hb', ho, h⟩
    rw [List.append_assoc] at h
    have ht : c :: t = o ++ b := gap_append_cancel ha ha' (solidHead_cons.mpr hb)
      ((solidHead_append ho.ne_nil b).mpr ho.solidHead) h
    rcases ho with ⟨body, -, rfl⟩ | ho
    · obtain ⟨rfl, -⟩ := List.cons.inj ht
      exact absurd hc (by decide)
    · refine ⟨fun d hd => ?_, by rw [ht, dropBlanksRight_eq ho.last hb']⟩
      rw [ht] at hd
      rcases List.mem_append.mp hd with hd | hd
      · exact ho.bare d hd
      · exact isBare_of_isBlank (hb' d hd)
  · rintro ⟨hall, rfl⟩
    obtain ⟨b, hb', ht⟩ := exists_dropBlanksRight_append_gap (c :: t)
    have hn : dropBlanksRight (c :: t) ≠ [] := by
      rw [Ne, dropBlanksRight_eq_nil_iff]
      intro hgap
      have := hgap c (by simp)
      simp [hb] at this
    have htake : (c :: t).takeWhile isBare = c :: t := List.takeWhile_eq_self_iff.mpr hall
    have hbare := isBareOperand_takeWhile (solidHead_cons.mpr hb) (by rwa [htake])
    rw [htake] at hbare
    exact ⟨a, b, ha, hb', .inr hbare, by rw [List.append_assoc, ← ht]⟩

/-- With more text behind it an operand goes on over all of that text or is none. -/
theorem lastOperand?_append_iff {a y b rest o : Text} (ha : IsGap a) (hb : IsGap b)
    (hy : IsOperand y) (hr : SolidHead rest) (hn : rest ≠ []) :
    lastOperand? (a ++ y ++ b ++ rest) = some o ↔
      IsBareOperand y ∧ (∀ c ∈ rest, isBare c = true) ∧ o = dropBlanksRight (y ++ b ++ rest) := by
  rcases hy with hy | hy
  · have hread := operand?_eq ha hb hr (.inl hy)
    obtain ⟨c, rest, rfl⟩ := List.exists_cons_of_ne_nil hn
    simp only [lastOperand?, hread, hy.not_isBareOperand, false_and, reduceCtorEq]
  · obtain ⟨c, y', rfl⟩ := List.exists_cons_of_ne_nil hy.nonempty
    have htext : a ++ c :: y' ++ b ++ rest = a ++ c :: (y' ++ b ++ rest) := by simp
    rw [htext, lastOperand?_bare_iff ha (hy.head c rfl) (hy.bare c (by simp))]
    have hall : (∀ d ∈ c :: (y' ++ b ++ rest), isBare d = true) ↔
        ∀ d ∈ rest, isBare d = true := by
      constructor
      · intro h d hd
        exact h d (by simp [hd])
      · intro h d hd
        have hd' : d ∈ c :: y' ∨ d ∈ b ∨ d ∈ rest := by simpa [or_assoc] using hd
        rcases hd' with hd' | hd' | hd'
        · exact hy.bare d hd'
        · exact isBare_of_isBlank (hb d hd')
        · exact h d hd'
    simp only [hall, hy, true_and, List.cons_append]

theorem isOperand_iff {o : Text} : IsOperand o ↔ lastOperand? o = some o := by
  rw [lastOperand?_eq_some_iff]
  constructor
  · intro h
    exact ⟨[], [], isGap_nil, isGap_nil, h, by simp⟩
  · rintro ⟨a, b, -, -, h, -⟩
    exact h

instance : DecidablePred IsOperand := fun _ => decidable_of_iff _ isOperand_iff.symm

end ParameterTemplates.Template
