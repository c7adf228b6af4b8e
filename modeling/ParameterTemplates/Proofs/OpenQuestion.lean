import Mathlib.Data.List.Infix
import ParameterTemplates.Proofs.Operand

/-! The search for a question mark outside of strings, as a machine that reads one character at a
time: where it stands after a text decides what it makes of the text that follows. -/
namespace ParameterTemplates.Template
open Text

/-- Where the search stands between two characters. -/
inductive ScanMode where
  | outside
  | inside
  | escaping
  deriving DecidableEq

namespace ScanMode

def next : ScanMode → Char → ScanMode
  | outside, c => if c = '"' then inside else outside
  | inside, c => if c = '"' then outside else if c = '\\' then escaping else inside
  | escaping, _ => inside

def after (m : ScanMode) (t : Text) : ScanMode := t.foldl next m

/-- Whether a question mark is met outside of strings. -/
def finds : ScanMode → Text → Bool
  | _, [] => false
  | m, c :: t => (m == outside && c == '?') || (m.next c).finds t

@[simp] theorem after_cons (m : ScanMode) (c : Char) (t : Text) :
    m.after (c :: t) = (m.next c).after t := rfl

theorem after_append (m : ScanMode) (s t : Text) : m.after (s ++ t) = (m.after s).after t :=
  List.foldl_append

theorem finds_append (m : ScanMode) (s t : Text) :
    m.finds (s ++ t) = (m.finds s || (m.after s).finds t) := by
  induction s generalizing m with
  | nil => rfl
  | cons c s ih => simp only [List.cons_append, finds, ih, after_cons, Bool.or_assoc]

theorem finds_iff {m : ScanMode} {t : Text} :
    m.finds t = true ↔ ∃ p q, t = p ++ '?' :: q ∧ m.after p = outside := by
  induction t generalizing m with
  | nil => simp [finds]
  | cons c t ih =>
    simp only [finds, Bool.or_eq_true, Bool.and_eq_true, beq_iff_eq, ih]
    constructor
    · rintro (⟨rfl, rfl⟩ | ⟨p, q, rfl, hp⟩)
      · exact ⟨[], t, rfl, rfl⟩
      · exact ⟨c :: p, q, rfl, hp⟩
    · rintro ⟨p, q, hpq, hp⟩
      cases p with
      | nil =>
        obtain ⟨rfl, rfl⟩ := List.cons.inj hpq
        exact .inl ⟨hp, rfl⟩
      | cons d p =>
        obtain ⟨rfl, rfl⟩ := List.cons.inj hpq
        exact .inr ⟨p, q, rfl, hp⟩

theorem after_of_isStringRest {s : Text} (h : IsStringRest s) : inside.after s = outside := by
  induction h with
  | close => rfl
  | plain hq hb _ ih => simpa [next, hq, hb] using ih
  | escaped _ ih => simpa [next] using ih

/-- In a string no question mark is looked for. -/
theorem finds_of_isStringRest {s : Text} (h : IsStringRest s) : inside.finds s = false := by
  induction h with
  | close => rfl
  | plain hq hb _ ih => simpa [finds, next, hq, hb] using ih
  | escaped _ ih => simpa [finds, next] using ih

theorem after_of_isBlocks {t : Text} (h : IsBlocks t) : outside.after t = outside := by
  induction h with
  | nil => rfl
  | single hc _ ih => simpa [next, hc] using ih
  | string hs _ ih =>
    rw [List.cons_append, after_cons, show outside.next '"' = inside from rfl, after_append,
      after_of_isStringRest hs, ih]

/-- What a text has to be for the search to end outside of strings. -/
def Closes : ScanMode → Text → Prop
  | outside, t => IsBlocks t
  | inside, t => ∃ s r, IsStringRest s ∧ IsBlocks r ∧ t = s ++ r
  | escaping, t => ∃ c s r, IsStringRest s ∧ IsBlocks r ∧ t = c :: (s ++ r)

theorem closes_of_after {m : ScanMode} {t : Text} (h : m.after t = outside) : m.Closes t := by
  induction t generalizing m with
  | nil =>
    obtain rfl : m = outside := h
    exact .nil
  | cons c t ih =>
    have hnext := ih h
    cases m with
    | outside =>
      by_cases hq : c = '"'
      · subst hq
        obtain ⟨s, r, hs, hr, rfl⟩ := hnext
        exact .string hs hr
      · rw [next, if_neg hq] at hnext
        exact .single hq hnext
    | inside =>
      by_cases hq : c = '"'
      · subst hq
        exact ⟨['"'], t, .close, hnext, rfl⟩
      · by_cases hb : c = '\\'
        · subst hb
          obtain ⟨d, s, r, hs, hr, rfl⟩ := hnext
          exact ⟨'\\' :: d :: s, r, .escaped hs, hr, rfl⟩
        · rw [next, if_neg hq, if_neg hb] at hnext
          obtain ⟨s, r, hs, hr, rfl⟩ := hnext
          exact ⟨c :: s, r, .plain hq hb hs, hr, rfl⟩
    | escaping =>
      obtain ⟨s, r, hs, hr, rfl⟩ := hnext
      exact ⟨c, s, r, hs, hr, rfl⟩

theorem after_eq_outside_iff {t : Text} : outside.after t = outside ↔ IsBlocks t :=
  ⟨closes_of_after, after_of_isBlocks⟩

instance : DecidablePred IsBlocks := fun _ => decidable_of_iff _ after_eq_outside_iff

/-- The mode that the search is in, by whether it is in a string. -/
def ofQuoted (quoted : Bool) : ScanMode := if quoted then inside else outside

theorem finds_ofQuoted (quoted : Bool) (t : Text) :
    (ofQuoted quoted).finds t = scanQuestion quoted t := by
  fun_induction scanQuestion quoted t with
  | case1 => rfl
  | case2 c t ih =>
    rw [← ih]
    by_cases hq : c = '"' <;> simp [ofQuoted, finds, next, hq]
  | case3 c t ih =>
    rw [← ih]
    rfl
  | case4 c t hb ih =>
    rw [← ih]
    by_cases hq : c = '"'
    · simp [ofQuoted, finds, next, hq]
    · by_cases hs : c = '\\'
      · subst hs
        cases t with
        | nil => rfl
        | cons d t => exact absurd rfl (hb d t rfl)
      · simp [ofQuoted, finds, next, hq, hs]

end ScanMode

theorem hasOpenQuestion_eq_finds (t : Text) : hasOpenQuestion t = ScanMode.outside.finds t :=
  (ScanMode.finds_ofQuoted false t).symm

/-- An open question mark follows single characters and complete strings. -/
theorem hasOpenQuestion_iff {t : Text} :
    hasOpenQuestion t = true ↔ ∃ p q, IsBlocks p ∧ t = p ++ '?' :: q := by
  simp only [hasOpenQuestion_eq_finds, ScanMode.finds_iff, ScanMode.after_eq_outside_iff]
  constructor
  · rintro ⟨p, q, rfl, hp⟩
    exact ⟨p, q, hp, rfl⟩
  · rintro ⟨p, q, hp, rfl⟩
    exact ⟨p, q, rfl, hp⟩

theorem IsBlocks.append {s t : Text} (hs : IsBlocks s) (ht : IsBlocks t) : IsBlocks (s ++ t) := by
  rw [← ScanMode.after_eq_outside_iff] at hs ht ⊢
  rw [ScanMode.after_append, hs, ht]

theorem isBlocks_of_forall_ne {t : Text} (h : ∀ c ∈ t, c ≠ '"') : IsBlocks t := by
  induction t with
  | nil => exact .nil
  | cons c t ih => exact .single (h c (by simp)) (ih fun d hd => h d (by simp [hd]))

theorem IsGap.isBlocks {t : Text} (h : IsGap t) : IsBlocks t :=
  isBlocks_of_forall_ne fun c hc he => h.not_mem (by decide) (he ▸ hc)

theorem IsQuotedBody.isStringRest {body : Text} (h : IsQuotedBody body) :
    IsStringRest (body ++ ['"']) := by
  induction h with
  | nil => exact .close
  | plain hq hb _ ih => exact .plain hq hb ih
  | escaped _ _ ih => exact .escaped ih

theorem IsOperand.isBlocks {o : Text} (h : IsOperand o) : IsBlocks o := by
  rcases h with ⟨body, hb, rfl⟩ | h
  · simpa using IsBlocks.string hb.isStringRest .nil
  · refine isBlocks_of_forall_ne fun c hc he => ?_
    have := h.bare c hc
    rw [he] at this
    exact absurd this (by decide)

theorem IsOperand.hasOpenQuestion_eq_false {o : Text} (h : IsOperand o) :
    hasOpenQuestion o = false := by
  rw [hasOpenQuestion_eq_finds]
  obtain ⟨body, hb, rfl⟩ | h := h
  · exact ScanMode.finds_of_isStringRest hb.isStringRest
  · rw [Bool.eq_false_iff]
    intro hfound
    obtain ⟨p, q, rfl, -⟩ := ScanMode.finds_iff.mp hfound
    exact absurd (h.bare '?' (by simp)) (by decide)

/-- Behind an operand the search finds the question mark, whatever follows it. -/
theorem hasOpenQuestion_operand {o g : Text} (ho : IsOperand o) (hg : IsGap g) (t : Text) :
    hasOpenQuestion (o ++ g ++ '?' :: t) = true :=
  hasOpenQuestion_iff.mpr ⟨o ++ g, t, ho.isBlocks.append hg.isBlocks, rfl⟩

/-- Whether a string that is open before a text is still open after it. -/
def LeavesOpen (t : Text) : Prop := ∀ s r, t = s ++ r → ¬ IsStringRest s

/-- A string stays open as long as the search stays inside of it. -/
theorem leavesOpen_iff {t : Text} :
    LeavesOpen t ↔ ∀ s ∈ t.inits, ScanMode.inside.after s ≠ .outside := by
  simp only [List.mem_inits]
  constructor
  · rintro h s ⟨r, rfl⟩ hs
    obtain ⟨closed, rest, hclosed, -, rfl⟩ := ScanMode.closes_of_after hs
    exact h closed (rest ++ r) (by simp) hclosed
  · rintro h s r rfl hs
    exact h s ⟨r, rfl⟩ (ScanMode.after_of_isStringRest hs)

instance : DecidablePred LeavesOpen := fun _ => decidable_of_iff _ leavesOpen_iff.symm

theorem LeavesOpen.finds_eq_false {t : Text} (h : LeavesOpen t) :
    ScanMode.inside.finds t = false := by
  rw [Bool.eq_false_iff]
  intro hfound
  obtain ⟨p, q, rfl, hp⟩ := ScanMode.finds_iff.mp hfound
  exact leavesOpen_iff.mp h p (by simp) hp

/-- Of the strings in a text all are complete, or all but one that runs to the end of the text. -/
theorem isBlocks_or_leavesOpen (t : Text) :
    IsBlocks t ∨ ∃ p u, IsBlocks p ∧ LeavesOpen u ∧ t = p ++ '"' :: u := by
  induction t using List.reverseRecOn with
  | nil => exact .inl .nil
  | append_singleton t c ih =>
    rcases ih with ht | ⟨p, u, hp, hu, rfl⟩
    · by_cases hc : c = '"'
      · subst hc
        exact .inr ⟨t, [], ht, by decide, rfl⟩
      · exact .inl (ht.append (.single hc .nil))
    · by_cases hclosed : IsStringRest (u ++ [c])
      · left
        have hstring : IsBlocks ('"' :: (u ++ [c])) := by simpa using IsBlocks.string hclosed .nil
        simpa using hp.append hstring
      · refine .inr ⟨p, u ++ [c], hp, ?_, by simp⟩
        intro s r h hs
        -- a shorter beginning would have closed the string before the last character
        rcases List.eq_nil_or_concat r with rfl | ⟨r, d, rfl⟩
        · rw [List.append_nil] at h
          exact hclosed (h ▸ hs)
        · rw [List.concat_eq_append, ← List.append_assoc] at h
          exact hu s r (List.append_inj_left' h rfl) hs

/-- A string that is left open hides what stands in it. -/
theorem hasOpenQuestion_of_leavesOpen {p u : Text} (hp : IsBlocks p) (hu : LeavesOpen u) :
    hasOpenQuestion (p ++ '"' :: u) = hasOpenQuestion p := by
  simp only [hasOpenQuestion_eq_finds, ScanMode.finds_append, ScanMode.after_of_isBlocks hp]
  change (_ || ScanMode.inside.finds u) = _
  rw [hu.finds_eq_false, Bool.or_false]

/-- The search finds a question mark exactly where one follows single characters other than quotes
and complete strings, in which a backslash takes any character with it. It finds none in an operand
and finds the one behind an operand, whatever comes next. A text is made of such characters and
strings or goes over into a string that is left open, and nothing in the latter is found. -/
theorem open_question_exact :
    (∀ t, hasOpenQuestion t = true ↔ ∃ p q, IsBlocks p ∧ t = p ++ '?' :: q) ∧
    (∀ o, IsOperand o → hasOpenQuestion o = false) ∧
    (∀ o g, IsOperand o → IsGap g → ∀ t, hasOpenQuestion (o ++ g ++ '?' :: t) = true) ∧
    (∀ t, IsBlocks t ∨ ∃ p u, IsBlocks p ∧ LeavesOpen u ∧ t = p ++ '"' :: u) ∧
    ∀ p u, IsBlocks p → LeavesOpen u → hasOpenQuestion (p ++ '"' :: u) = hasOpenQuestion p := by
  refine ⟨fun t => hasOpenQuestion_iff, ?_, ?_, isBlocks_or_leavesOpen, ?_⟩
  · intro o ho
    exact ho.hasOpenQuestion_eq_false
  · intro o g ho hg t
    exact hasOpenQuestion_operand ho hg t
  · intro p u hp hu
    exact hasOpenQuestion_of_leavesOpen hp hu

/-- A backslash before a line end in a string, which no operand may hold; an operand with escapes
before a question mark and an open quote; a backslash outside of strings and one that ends the text,
in a string that hides two question marks. -/
theorem open_question_exact_escapes :
    hasOpenQuestion ['"', '\\', '\n', '?', '"', '?'] = true ∧
      ¬ IsOperand ['"', '\\', '\n', '?', '"'] ∧
      hasOpenQuestion ['"', '\\', '"', '?', '"'] = false ∧
      hasOpenQuestion ['"', '\\', '"', '?', '"', '\t', '?', '"'] = true ∧
      hasOpenQuestion ['\\', '"', '?', '\\', '"', '?', '\\'] = false := by
  obtain ⟨hfound, hoperand, hbehind, -, hopen⟩ := open_question_exact
  have ho : IsOperand ['"', '\\', '"', '?', '"'] := by decide
  refine ⟨(hfound _).mpr ⟨['"', '\\', '\n', '?', '"'], [], by decide, rfl⟩, by decide,
    hoperand _ ho, hbehind _ ['\t'] ho (by decide) ['"'], ?_⟩
  exact (hopen ['\\'] _ (by decide) (by decide)).trans (by decide)

end ParameterTemplates.Template
