import Mathlib.Data.List.DropRight
import ParameterTemplates.Template.Grammar

/-! Runs of characters of one class, and the case of blanks around texts: what is left without
them, and that nothing else could be left. -/
namespace ParameterTemplates.Template
open Text

theorem head?_dropWhile {p : Char → Bool} (t : Text) :
    ∀ c ∈ (t.dropWhile p).head?, p c = false := by
  intro c hc
  have h := List.head?_dropWhile_not p t
  rw [hc] at h
  simpa using h

/-- A run ends where a character outside of its class follows. -/
theorem takeWhile_append_eq {p : Char → Bool} {s t : Text} (hs : ∀ c ∈ s, p c = true)
    (ht : ∀ c ∈ t.head?, p c = false) : (s ++ t).takeWhile p = s := by
  rw [List.takeWhile_append_of_pos hs]
  cases t with
  | nil => simp
  | cons c t => simp [ht c rfl]

theorem dropWhile_append_eq {p : Char → Bool} {s t : Text} (hs : ∀ c ∈ s, p c = true)
    (ht : ∀ c ∈ t.head?, p c = false) : (s ++ t).dropWhile p = t := by
  rw [List.dropWhile_append_of_pos hs]
  cases t with
  | nil => rfl
  | cons c t => simp [ht c rfl]

/-- The first character, if there is one, is not a blank. -/
def SolidHead (t : Text) : Prop := ∀ c ∈ t.head?, isBlank c = false

/-- The last character, if there is one, is not a blank. -/
def SolidLast (t : Text) : Prop := ∀ c ∈ t.getLast?, isBlank c = false

/-- No blank is a visible character of ASCII. -/
theorem isBlank_eq_false {c : Char} (h : 32 < c.toNat) (h' : c.toNat < 127) :
    isBlank c = false := by
  simp only [isBlank, Bool.or_eq_false_iff, Bool.and_eq_false_iff, decide_eq_false_iff_not,
    beq_eq_false_iff_ne]
  omega

instance : DecidablePred IsGap := fun _ => decidable_of_iff _ List.all_eq_true

theorem isGap_nil : IsGap [] := by simp [IsGap]

theorem isGap_append {s t : Text} : IsGap (s ++ t) ↔ IsGap s ∧ IsGap t := by
  simp only [IsGap, List.mem_append, or_imp, forall_and]

theorem IsGap.not_mem {t : Text} {c : Char} (ht : IsGap t) (hc : isBlank c = false) : c ∉ t := by
  intro h
  have := ht c h
  rw [hc] at this
  contradiction

theorem isGap_reverse {t : Text} : IsGap t.reverse ↔ IsGap t := by
  simp only [IsGap, List.mem_reverse]

theorem solidHead_nil : SolidHead [] := by simp [SolidHead]

theorem solidHead_cons {c : Char} {t : Text} : SolidHead (c :: t) ↔ isBlank c = false := by
  simp [SolidHead]

theorem solidHead_append {s : Text} (h : s ≠ []) (t : Text) :
    SolidHead (s ++ t) ↔ SolidHead s := by
  cases s with
  | nil => contradiction
  | cons c s => simp only [List.cons_append, solidHead_cons]

theorem solidHead_reverse {t : Text} : SolidHead t.reverse ↔ SolidLast t := by
  simp only [SolidHead, SolidLast, List.head?_reverse]

theorem solidLast_append {t : Text} (s : Text) (h : t ≠ []) :
    SolidLast (s ++ t) ↔ SolidLast t := by
  rw [← solidHead_reverse, ← solidHead_reverse, List.reverse_append,
    solidHead_append (by simpa using h)]

theorem solidLast_singleton {c : Char} : SolidLast [c] ↔ isBlank c = false := by
  simp [SolidLast]

theorem solidHead_dropBlanks (t : Text) : SolidHead (dropBlanks t) := head?_dropWhile t

theorem exists_gap_append_dropBlanks (t : Text) : ∃ g, IsGap g ∧ t = g ++ dropBlanks t :=
  ⟨t.takeWhile isBlank, fun _ hc => List.mem_takeWhile_imp hc,
    List.takeWhile_append_dropWhile.symm⟩

/-- Blanks before a text that begins with none are exactly what is dropped. -/
theorem dropBlanks_eq {g t : Text} (hg : IsGap g) (ht : SolidHead t) : dropBlanks (g ++ t) = t :=
  dropWhile_append_eq hg ht

theorem dropBlanksRight_eq_reverse (t : Text) :
    dropBlanksRight t = (dropBlanks t.reverse).reverse := rfl

theorem solidLast_dropBlanksRight (t : Text) : SolidLast (dropBlanksRight t) := by
  rw [← solidHead_reverse, dropBlanksRight_eq_reverse, List.reverse_reverse]
  exact solidHead_dropBlanks _

theorem exists_dropBlanksRight_append_gap (t : Text) :
    ∃ g, IsGap g ∧ t = dropBlanksRight t ++ g := by
  obtain ⟨g, hg, h⟩ := exists_gap_append_dropBlanks t.reverse
  refine ⟨g.reverse, isGap_reverse.mpr hg, ?_⟩
  rw [dropBlanksRight_eq_reverse, ← List.reverse_append, ← h, List.reverse_reverse]

/-- Blanks after a text that ends with none are exactly what is dropped. -/
theorem dropBlanksRight_eq {t g : Text} (ht : SolidLast t) (hg : IsGap g) :
    dropBlanksRight (t ++ g) = t := by
  rw [dropBlanksRight_eq_reverse, List.reverse_append,
    dropBlanks_eq (isGap_reverse.mpr hg) (solidHead_reverse.mpr ht), List.reverse_reverse]

theorem solidHead_dropBlanksRight {t : Text} (ht : SolidHead t) :
    SolidHead (dropBlanksRight t) := by
  obtain ⟨g, -, hg⟩ := exists_dropBlanksRight_append_gap t
  by_cases h : dropBlanksRight t = []
  · rw [h]
    exact solidHead_nil
  · rwa [hg, solidHead_append h] at ht

theorem dropBlanksRight_eq_nil_iff {t : Text} : dropBlanksRight t = [] ↔ IsGap t :=
  List.rdropWhile_eq_nil_iff

theorem mem_dropBlanksRight {t : Text} {c : Char} (hc : c ∈ t) (hb : isBlank c = false) :
    c ∈ dropBlanksRight t := by
  obtain ⟨g, hg, ht⟩ := exists_dropBlanksRight_append_gap t
  rw [ht] at hc
  exact (List.mem_append.mp hc).resolve_right (hg.not_mem hb)

theorem mem_of_mem_dropBlanksRight {t : Text} {c : Char} (hc : c ∈ dropBlanksRight t) : c ∈ t := by
  obtain ⟨g, -, ht⟩ := exists_dropBlanksRight_append_gap t
  rw [ht]
  exact List.mem_append_left g hc

/-- Blanks are dropped from the end only as far as the last character that is none. -/
theorem dropBlanksRight_append {s : Text} (hs : SolidLast s) (t : Text) :
    dropBlanksRight (s ++ t) = s ++ dropBlanksRight t := by
  obtain ⟨g, hg, ht⟩ := exists_dropBlanksRight_append_gap t
  have hsolid : SolidLast (s ++ dropBlanksRight t) := by
    by_cases hn : dropBlanksRight t = []
    · rwa [hn, List.append_nil]
    · exact (solidLast_append s hn).mpr (solidLast_dropBlanksRight t)
  rw [ht, ← List.append_assoc, dropBlanksRight_eq hsolid hg, ← ht]

theorem trim_gap_append {g s : Text} (hg : IsGap g) (hn : s ≠ []) (hh : SolidHead s)
    (hl : SolidLast s) (t : Text) : trim (g ++ s ++ t) = s ++ dropBlanksRight t := by
  rw [trim, List.append_assoc, dropBlanks_eq hg ((solidHead_append hn t).mpr hh),
    dropBlanksRight_append hl]

theorem trim_eq {a t b : Text} (ha : IsGap a) (ht : SolidHead t) (ht' : SolidLast t)
    (hn : t ≠ []) (hb : IsGap b) : trim (a ++ t ++ b) = t := by
  rw [trim_gap_append ha hn ht ht', dropBlanksRight_eq_nil_iff.mpr hb, List.append_nil]

theorem solidHead_trim (t : Text) : SolidHead (trim t) :=
  solidHead_dropBlanksRight (solidHead_dropBlanks t)

theorem solidLast_trim (t : Text) : SolidLast (trim t) := solidLast_dropBlanksRight _

theorem exists_gaps_trim (t : Text) : ∃ a b, IsGap a ∧ IsGap b ∧ t = a ++ trim t ++ b := by
  obtain ⟨a, ha, hat⟩ := exists_gap_append_dropBlanks t
  obtain ⟨b, hb, hbt⟩ := exists_dropBlanksRight_append_gap (dropBlanks t)
  refine ⟨a, b, ha, hb, ?_⟩
  rw [trim, List.append_assoc, ← hbt, ← hat]

theorem trim_eq_nil_iff {t : Text} : trim t = [] ↔ IsGap t := by
  constructor
  · intro h
    obtain ⟨a, b, ha, hb, ht⟩ := exists_gaps_trim t
    rw [ht, h, List.append_nil]
    exact isGap_append.mpr ⟨ha, hb⟩
  · intro h
    rw [trim, dropBlanksRight_eq_nil_iff]
    obtain ⟨g, -, hg⟩ := exists_gap_append_dropBlanks t
    rw [hg] at h
    exact (isGap_append.mp h).2

theorem mem_trim {t : Text} {c : Char} (hc : c ∈ t) (hb : isBlank c = false) : c ∈ trim t := by
  obtain ⟨a, b, ha, hb', ht⟩ := exists_gaps_trim t
  rw [ht] at hc
  have hab := (List.mem_append.mp hc).resolve_right (hb'.not_mem hb)
  exact (List.mem_append.mp hab).resolve_left (ha.not_mem hb)

/-- Where a text goes on after its blanks is settled by the text. -/
theorem gap_append_cancel {a b s t : Text} (ha : IsGap a) (hb : IsGap b) (hs : SolidHead s)
    (ht : SolidHead t) (h : a ++ s = b ++ t) : s = t := by
  rw [← dropBlanks_eq ha hs, h, dropBlanks_eq hb ht]

end ParameterTemplates.Template
