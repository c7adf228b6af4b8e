import ParameterTemplates.Proofs.Blanks

/-! References to parameters: the reader takes exactly the texts of the grammar, whatever blanks
stand around them. -/
namespace ParameterTemplates.Template
open Text

theorem selector_eq : selector = ['p', 'a', 'r', 'a', 'm', 's', '.'] := by decide

/-- Letters and digits, by their code points. -/
theorem toNat_of_isAlphanum {c : Char} (h : c.isAlphanum = true) :
    (65 ≤ c.toNat ∧ c.toNat ≤ 90 ∨ 97 ≤ c.toNat ∧ c.toNat ≤ 122) ∨
      48 ≤ c.toNat ∧ c.toNat ≤ 57 := by
  rcases Bool.or_eq_true_iff.mp (show (c.isAlpha || c.isDigit) = true from h) with h | h
  · left
    rcases Bool.or_eq_true_iff.mp (show (c.isUpper || c.isLower) = true from h) with h | h
    · have hrange : 'A'.val ≤ c.val ∧ c.val ≤ 'Z'.val := of_decide_eq_true h
      exact .inl ⟨UInt32.le_iff_toNat_le.mp hrange.1, UInt32.le_iff_toNat_le.mp hrange.2⟩
    · obtain ⟨hlow, hhigh⟩ := Bool.and_eq_true_iff.mp h
      exact .inr ⟨UInt32.le_iff_toNat_le.mp (of_decide_eq_true hlow),
        UInt32.le_iff_toNat_le.mp (of_decide_eq_true hhigh)⟩
  · exact .inr (Char.isDigit_iff_toNat.mp h)

theorem isBlank_eq_false_of_isNameChar {c : Char} (h : isNameChar c = true) :
    isBlank c = false := by
  simp only [isNameChar, Bool.or_eq_true, beq_iff_eq] at h
  rcases h with (h | rfl) | rfl
  · have := toNat_of_isAlphanum h
    apply isBlank_eq_false <;> omega
  · decide
  · decide

theorem isNameChar_of_isNameStart {c : Char} (h : isNameStart c = true) : isNameChar c = true := by
  simp only [isNameStart, isNameChar, Bool.or_eq_true] at h ⊢
  exact .inl (h.imp_left fun ha => Bool.or_eq_true_iff.mpr (.inl ha))

theorem IsName.isNameChar {name : Text} (h : IsName name) : ∀ c ∈ name, isNameChar c = true := by
  cases name with
  | nil => exact h.elim
  | cons c t =>
    intro d hd
    rcases List.mem_cons.mp hd with rfl | hd
    · exact isNameChar_of_isNameStart h.1
    · exact h.2 d hd

theorem IsName.isBlank_eq_false {name : Text} (h : IsName name) : ∀ c ∈ name, isBlank c = false :=
  fun c hc => isBlank_eq_false_of_isNameChar (h.isNameChar c hc)

theorem IsName.ne_nil {name : Text} (h : IsName name) : name ≠ [] := by
  rintro rfl
  exact h

theorem IsName.trim_eq {name : Text} (h : IsName name) : trim name = name := by
  have hhead : SolidHead name := fun c hc => h.isBlank_eq_false c (List.mem_of_mem_head? hc)
  have hlast : SolidLast name := fun c hc => h.isBlank_eq_false c (List.mem_of_mem_getLast? hc)
  simpa using Template.trim_eq isGap_nil hhead hlast h.ne_nil isGap_nil

theorem name?_eq_some_iff {t name rest : Text} : name? t = some (name, rest) ↔
    IsName name ∧ t = name ++ rest ∧ ∀ c ∈ rest.head?, isNameChar c = false := by
  constructor
  · intro h
    have ht := name?_append h
    cases t with
    | nil => simp [name?] at h
    | cons c t =>
      simp only [name?, Option.ite_none_right_eq_some, Option.some.injEq, Prod.mk.injEq] at h
      obtain ⟨hc, rfl, rfl⟩ := h
      exact ⟨⟨hc, fun d hd => List.mem_takeWhile_imp hd⟩, ht, head?_dropWhile t⟩
  · rintro ⟨hn, rfl, hr⟩
    cases name with
    | nil => exact hn.elim
    | cons c t =>
      obtain ⟨hc, ht⟩ := hn
      rw [List.cons_append, name?, if_pos hc, takeWhile_append_eq ht hr, dropWhile_append_eq ht hr]

theorem isName_iff {name : Text} : IsName name ↔ name? name = some (name, []) := by
  simp [name?_eq_some_iff]

instance : DecidablePred IsName := fun _ => decidable_of_iff _ isName_iff.symm

theorem solidHead_referTo (name t : Text) : SolidHead (referTo name ++ t) := by
  rw [referTo, selector_eq]
  exact solidHead_cons.mpr (by decide)

/-- What is found after a reference begins where the blanks after the name end. -/
theorem exists_of_subject? {t name rest : Text} (h : subject? t = some (name, rest)) :
    ∃ a b, IsGap a ∧ IsGap b ∧ IsName name ∧ t = a ++ referTo name ++ b ++ rest ∧
      SolidHead rest := by
  simp only [subject?, Option.bind_eq_bind, Option.bind_eq_some_iff, Option.pure_def,
    Option.some.injEq, Prod.mk.injEq] at h
  obtain ⟨u, hu, ⟨n, r⟩, hn, rfl, rfl⟩ := h
  obtain ⟨a, ha, hat⟩ := exists_gap_append_dropBlanks t
  obtain ⟨b, hb, hbr⟩ := exists_gap_append_dropBlanks r
  obtain ⟨hname, rfl, -⟩ := name?_eq_some_iff.mp hn
  rw [after?_eq_some_iff] at hu
  refine ⟨a, b, ha, hb, hname, ?_, solidHead_dropBlanks r⟩
  rw [hu] at hat
  rw [hat, referTo, List.append_assoc, List.append_assoc, List.append_assoc, ← hbr]

theorem subject?_eq {a b name rest : Text} (ha : IsGap a) (hb : IsGap b) (hn : IsName name)
    (hr : SolidHead rest) (hr' : ∀ c ∈ rest.head?, isNameChar c = false) :
    subject? (a ++ referTo name ++ b ++ rest) = some (name, rest) := by
  have hstop : ∀ c ∈ (b ++ rest).head?, isNameChar c = false := by
    cases b with
    | nil => exact hr'
    | cons d b =>
      intro c hc
      obtain rfl : d = c := by simpa using hc
      refine Bool.eq_false_iff.mpr fun h => ?_
      have := isBlank_eq_false_of_isNameChar h
      rw [hb d (by simp)] at this
      contradiction
  have hdrop : dropBlanks (a ++ referTo name ++ b ++ rest) = selector ++ (name ++ (b ++ rest)) := by
    rw [List.append_assoc, List.append_assoc, dropBlanks_eq ha (solidHead_referTo _ _), referTo,
      List.append_assoc]
  have hname : name? (name ++ (b ++ rest)) = some (name, b ++ rest) :=
    name?_eq_some_iff.mpr ⟨hn, rfl, hstop⟩
  have hselector : after? selector (selector ++ (name ++ (b ++ rest))) =
      some (name ++ (b ++ rest)) := after?_eq_some_iff.mpr rfl
  simp only [subject?, hdrop, hselector, Option.bind_eq_bind, Option.bind_some, hname,
    dropBlanks_eq hb hr, Option.pure_def]

theorem reference?_eq_some_iff {t name : Text} : reference? t = some name ↔
    ∃ a b, IsGap a ∧ IsGap b ∧ IsName name ∧ t = a ++ referTo name ++ b := by
  constructor
  · intro h
    unfold reference? at h
    split at h
    · next n hs =>
      obtain rfl := Option.some.inj h
      obtain ⟨a, b, ha, hb, hn, rfl, -⟩ := exists_of_subject? hs
      exact ⟨a, b, ha, hb, hn, List.append_nil _⟩
    · contradiction
  · rintro ⟨a, b, ha, hb, hn, rfl⟩
    have h := subject?_eq ha hb hn solidHead_nil (by simp)
    rw [List.append_nil] at h
    simp only [reference?, h]

theorem isName_of_reference? {t name : Text} (h : reference? t = some name) : IsName name := by
  obtain ⟨a, b, -, -, hn, -⟩ := reference?_eq_some_iff.mp h
  exact hn

/-- A character that is no blank and in no name and no selector. -/
def IsForeign (c : Char) : Prop := isBlank c = false ∧ isNameChar c = false ∧ c ∉ selector

theorem isForeign_question : IsForeign '?' := ⟨by decide, by decide, by rw [selector_eq]; decide⟩

theorem isForeign_quote : IsForeign '"' := ⟨by decide, by decide, by rw [selector_eq]; decide⟩

theorem isForeign_closing : IsForeign '}' := ⟨by decide, by decide, by rw [selector_eq]; decide⟩

theorem reference?_eq_none {t : Text} {c : Char} (hc : c ∈ t) (hf : IsForeign c) :
    reference? t = none := by
  obtain ⟨hb, hn, hs⟩ := hf
  rw [Option.eq_none_iff_forall_ne_some]
  intro name h
  obtain ⟨a, b, ha, hb', hname, rfl⟩ := reference?_eq_some_iff.mp h
  simp only [referTo, List.mem_append] at hc
  rcases hc with (hc | hc | hc) | hc
  · exact ha.not_mem hb hc
  · exact hs hc
  · simp [hname.isNameChar c hc] at hn
  · exact hb'.not_mem hb hc

end ParameterTemplates.Template
