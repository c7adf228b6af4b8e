import ParameterTemplates.Number.Numeral
import ParameterTemplates.Proofs.Blanks

/-! Decimal numerals as they are written: a sign, digits around a point and an exponent, the first and
the last of them optional. The reader takes exactly these texts and takes them apart where the
grammar does. -/
namespace ParameterTemplates.Numeral
open Template

def IsDigits (t : Text) : Prop := ∀ c ∈ t, c.isDigit = true

/-- An optional sign, and whether it is the negative one. -/
inductive IsSign : Bool → Text → Prop where
  | none : IsSign false []
  | plus : IsSign false ['+']
  | minus : IsSign true ['-']

/-- An optional point, and the digits after it. -/
inductive IsFraction : Text → Text → Prop where
  | none : IsFraction [] []
  | point {digits : Text} : IsDigits digits → IsFraction digits ('.' :: digits)

/-- The integer of a sign and a run of digits. -/
def signed (negative : Bool) (digits : Text) : Int :=
  if negative then -(natural digits : Int) else natural digits

/-- An optional exponent: a mark and digits, with an optional sign between them. -/
inductive IsExponent : Option Int → Text → Prop where
  | none : IsExponent none []
  | mark {c : Char} {s digits : Text} {negative : Bool} : c = 'e' ∨ c = 'E' →
      IsSign negative s → IsDigits digits → digits ≠ [] →
      IsExponent (some (signed negative digits)) (c :: (s ++ digits))

/-- The texts of a numeral. There is a digit on one side of the point at least. -/
inductive Written : Numeral → Text → Prop where
  | mk {negative : Bool} {s whole fraction f x : Text} {e : Option Int} : IsSign negative s →
      IsDigits whole → IsFraction fraction f → whole ≠ [] ∨ fraction ≠ [] → IsExponent e x →
      Written ⟨negative, whole, fraction, e.getD 0⟩ (s ++ (whole ++ (f ++ x)))

section Parts

variable {t rest digits : Text} {negative : Bool} {e : Int}

theorem isDigits_takeWhile (t : Text) : IsDigits (t.takeWhile Char.isDigit) :=
  fun _ hc => List.mem_takeWhile_imp hc

theorem isSign_sign (t : Text) : ∃ s, IsSign (sign t).1 s ∧ t = s ++ (sign t).2 := by
  unfold sign
  split
  · exact ⟨_, .minus, rfl⟩
  · exact ⟨_, .plus, rfl⟩
  · exact ⟨_, .none, rfl⟩

theorem sign_append {s : Text} (h : IsSign negative s)
    (hrest : ∀ c ∈ rest.head?, c ≠ '+' ∧ c ≠ '-') : sign (s ++ rest) = (negative, rest) := by
  cases h with
  | plus | minus => rfl
  | none =>
    rw [List.nil_append]
    unfold sign
    split
    · exact absurd rfl (hrest '-' rfl).2
    · exact absurd rfl (hrest '+' rfl).1
    · rfl

theorem IsDigits.head_ne_sign (h : IsDigits t) : ∀ c ∈ t.head?, c ≠ '+' ∧ c ≠ '-' := by
  intro c hc
  have hdigit := h c (List.mem_of_mem_head? hc)
  constructor <;> rintro rfl <;> contradiction

theorem isFraction_fractionOf (t : Text) :
    ∃ f, IsFraction (fractionOf t).1 f ∧ t = f ++ (fractionOf t).2 := by
  unfold fractionOf
  split
  · next t =>
    exact ⟨'.' :: t.takeWhile Char.isDigit, .point (isDigits_takeWhile t), by simp⟩
  · exact ⟨[], .none, rfl⟩

theorem fractionOf_append {f : Text} (h : IsFraction digits f)
    (hrest : ∀ c ∈ rest.head?, c.isDigit = false ∧ c ≠ '.') :
    fractionOf (f ++ rest) = (digits, rest) := by
  cases h with
  | point hd =>
    have hstop : ∀ c ∈ rest.head?, c.isDigit = false := fun c hc => (hrest c hc).1
    simp only [List.cons_append, fractionOf, takeWhile_append_eq hd hstop,
      dropWhile_append_eq hd hstop]
  | none =>
    rw [List.nil_append]
    unfold fractionOf
    split
    · exact absurd rfl (hrest '.' rfl).2
    · rfl

theorem IsExponent.head {e : Option Int} {x : Text} (h : IsExponent e x) :
    ∀ c ∈ x.head?, c = 'e' ∨ c = 'E' := by
  cases h with
  | none => simp
  | mark hc _ _ _ => simpa using hc

theorem IsExponent.stops {e : Option Int} {x : Text} (h : IsExponent e x) :
    ∀ c ∈ x.head?, c.isDigit = false ∧ c ≠ '.' := by
  intro c hc
  rcases h.head c hc with rfl | rfl <;> decide

/-- After the digits before the point comes the point, or the exponent, or nothing. -/
theorem IsFraction.stops {f x : Text} {e : Option Int} (hf : IsFraction digits f)
    (hx : IsExponent e x) : ∀ c ∈ (f ++ x).head?, c.isDigit = false := by
  cases hf with
  | none => exact fun c hc => (hx.stops c hc).1
  | point _ => simp

theorem exponent?_eq_some_iff {e : Int} :
    exponent? t = some e ↔ ∃ e', IsExponent e' t ∧ e'.getD 0 = e := by
  constructor
  · intro h
    cases t with
    | nil => exact ⟨none, .none, Option.some.inj h⟩
    | cons c t =>
      simp only [exponent?, Option.ite_none_right_eq_some, List.all_eq_true, Option.some.injEq] at h
      obtain ⟨⟨hc, hne, hdigits⟩, rfl⟩ := h
      obtain ⟨s, hs, ht⟩ := isSign_sign t
      have hmark := IsExponent.mark hc hs hdigits hne
      rw [← ht] at hmark
      exact ⟨_, hmark, rfl⟩
  · rintro ⟨e', h, rfl⟩
    cases h with
    | none => rfl
    | mark hc hs hdigits hne =>
      simp only [exponent?, sign_append hs hdigits.head_ne_sign]
      rw [if_pos ⟨hc, hne, List.all_eq_true.mpr hdigits⟩]
      rfl

end Parts

section Reading

variable {t : Text} {n : Numeral}

theorem written_of_read? (h : read? t = some n) : n.Written t := by
  simp only [read?, Option.ite_none_left_eq_some, Option.map_eq_some_iff] at h
  obtain ⟨hne, e, he, rfl⟩ := h
  obtain ⟨e', hexponent, rfl⟩ := exponent?_eq_some_iff.mp he
  obtain ⟨s, hs, ht⟩ := isSign_sign t
  obtain ⟨f, hf, hrest⟩ := isFraction_fractionOf ((sign t).2.dropWhile Char.isDigit)
  have hwhole := List.takeWhile_append_dropWhile (p := Char.isDigit) (l := (sign t).2)
  have hmk := Written.mk hs (isDigits_takeWhile (sign t).2) hf (by tauto) hexponent
  rwa [← hrest, hwhole, ← ht] at hmk

theorem Written.read? (h : n.Written t) : read? t = some n := by
  cases h with
  | @mk negative s whole fraction f x e hs hwhole hf hne hx =>
    have hhead : ∀ c ∈ (whole ++ (f ++ x)).head?, c ≠ '+' ∧ c ≠ '-' := by
      cases whole with
      | cons d whole => exact fun c hc => hwhole.head_ne_sign c hc
      | nil =>
        cases hf with
        | none => simp at hne
        | point _ => simp
    have hexponent : exponent? x = some (e.getD 0) := exponent?_eq_some_iff.mpr ⟨e, hx, rfl⟩
    have hempty : ¬(whole = [] ∧ fraction = []) := by tauto
    simp only [Numeral.read?, sign_append hs hhead, takeWhile_append_eq hwhole (hf.stops hx),
      dropWhile_append_eq hwhole (hf.stops hx), fractionOf_append hf hx.stops, hexponent,
      if_neg hempty, Option.map_some]

/-- The reader takes the texts of the grammar and no others. -/
theorem read?_eq_some_iff : Numeral.read? t = some n ↔ n.Written t :=
  ⟨written_of_read?, Written.read?⟩

theorem Written.unique {m : Numeral} (hn : n.Written t) (hm : m.Written t) : n = m :=
  Option.some.inj (hn.read?.symm.trans hm.read?)

end Reading

section Characters

/-- The characters other than digits that numerals are written with. -/
def marks : Text := ['+', '-', '.', 'e', 'E']

/-- Whether a numeral may be written with a character. -/
def isNumeralChar (c : Char) : Bool := c.isDigit || marks.contains c

theorem isNumeralChar_of_isDigit {c : Char} (h : c.isDigit = true) : isNumeralChar c = true := by
  simp [isNumeralChar, h]

theorem IsSign.isNumeralChar {negative : Bool} {s : Text} (h : IsSign negative s) :
    ∀ c ∈ s, Numeral.isNumeralChar c = true := by
  cases h <;> simp [Numeral.isNumeralChar, marks]

theorem IsDigits.isNumeralChar {t : Text} (h : IsDigits t) :
    ∀ c ∈ t, Numeral.isNumeralChar c = true := fun c hc => isNumeralChar_of_isDigit (h c hc)

theorem Written.isNumeralChar {n : Numeral} {t : Text} (h : n.Written t) :
    ∀ c ∈ t, Numeral.isNumeralChar c = true := by
  cases h with
  | mk hs hwhole hf hne hx =>
    simp only [List.forall_mem_append]
    refine ⟨hs.isNumeralChar, hwhole.isNumeralChar, ?_, ?_⟩
    · cases hf with
      | none => simp
      | point hd => exact List.forall_mem_cons.mpr ⟨rfl, hd.isNumeralChar⟩
    · cases hx with
      | none => simp
      | mark hc hs hd _ =>
        refine List.forall_mem_cons.mpr ⟨?_, List.forall_mem_append.mpr
          ⟨hs.isNumeralChar, hd.isNumeralChar⟩⟩
        rcases hc with rfl | rfl <;> rfl

theorem isNumeralChar_iff {c : Char} :
    isNumeralChar c = true ↔ c.isDigit = true ∨ c ∈ marks := by
  simp only [isNumeralChar, Bool.or_eq_true, List.contains_iff_mem]

end Characters

end ParameterTemplates.Numeral
