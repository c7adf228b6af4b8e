import ParameterTemplates.Proofs.Numerals
import ParameterTemplates.Proofs.Reference
import ParameterTemplates.Value.Literal

/-! Which characters literals are written with: numbers and booleans keep to a few, so a literal
with any other character in it is a text in quotes. -/
namespace ParameterTemplates
open Text Template

/-- Signs, the point, and the letters of exponents and of names of values. -/
def literalMarks : Text :=
  ['+', '-', '.', 'e', 'i', 'n', 'f', 't', 'y', 'a', 'r', 'u', 'l', 's']

/-- Whether a number or a boolean may be written with a character. -/
def isPlainChar (c : Char) : Bool :=
  isBlank c || c.isDigit || literalMarks.contains c.toLower

theorem isPlainChar_of_isDigit {c : Char} (h : c.isDigit = true) : isPlainChar c = true := by
  simp [isPlainChar, h]

theorem isPlainChar_of_isNumeralChar {c : Char} (h : Numeral.isNumeralChar c = true) :
    isPlainChar c = true := by
  rcases Numeral.isNumeralChar_iff.mp h with h | h
  · exact isPlainChar_of_isDigit h
  · have hmarks : ∀ d ∈ Numeral.marks, isPlainChar d = true :=
      List.all_eq_true.mp (by decide)
    exact hmarks c h

theorem isPlainChar_of_toLower_mem {t name : Text} (h : t.map Char.toLower = name)
    (hname : name.all literalMarks.contains = true) {c : Char} (hc : c ∈ t) :
    isPlainChar c = true := by
  have hmem : c.toLower ∈ name := by
    rw [← h]
    exact List.mem_map_of_mem hc
  simp only [isPlainChar, List.all_eq_true.mp hname _ hmem, Bool.or_true]

theorem Binary64.isPlainChar_of_special? {negative : Bool} {t : Text} {x : Binary64}
    (h : special? negative t = some x) {c : Char} (hc : c ∈ t) : isPlainChar c = true := by
  simp only [special?] at h
  split at h
  · next hname =>
    rcases hname with hname | hname <;> exact isPlainChar_of_toLower_mem hname (by decide) hc
  · split at h
    · next hname => exact isPlainChar_of_toLower_mem hname (by decide) hc
    · contradiction

/-- A number is a numeral, or a name of a special double after a sign. -/
theorem Binary64.isPlainChar_of_read? {t : Text} {x : Binary64} (h : read? t = some x) {c : Char}
    (hc : c ∈ t) : isPlainChar c = true := by
  unfold read? at h
  split at h
  · next n hn =>
    exact isPlainChar_of_isNumeralChar ((Numeral.written_of_read? hn).isNumeralChar c hc)
  · obtain ⟨s, hs, ht⟩ := Numeral.isSign_sign t
    rw [ht] at hc
    rcases List.mem_append.mp hc with hc | hc
    · exact isPlainChar_of_isNumeralChar (hs.isNumeralChar c hc)
    · exact isPlainChar_of_special? h hc

/-- A text in quotes, as it stands. -/
def inQuotes (s : Text) : Text := '"' :: s ++ ['"']

namespace Literal

theorem string?_eq_some_iff {t : Text} {v : Scalar} :
    string? t = some v ↔ ∃ s, t = inQuotes s ∧ v = .string s := by
  simp only [string?, Option.map_eq_some_iff, Option.bind_eq_some_iff, after?_eq_some_iff,
    before?_eq_some_iff]
  constructor
  · rintro ⟨s, ⟨_, rfl, rfl⟩, rfl⟩
    exact ⟨s, rfl, rfl⟩
  · rintro ⟨s, rfl, rfl⟩
    exact ⟨s, ⟨_, rfl, rfl⟩, rfl⟩

theorem isPlainChar_of_number? {t : Text} {v : Scalar} (h : number? t = some v) {c : Char}
    (hc : c ∈ t) : isPlainChar c = true := by
  unfold number? at h
  split at h
  · next x hx =>
    obtain ⟨a, b, ha, hb, ht⟩ := exists_gaps_trim t
    rw [ht] at hc
    simp only [List.mem_append] at hc
    rcases hc with (hc | hc) | hc
    · simp [isPlainChar, ha c hc]
    · exact Binary64.isPlainChar_of_read? hx hc
    · simp [isPlainChar, hb c hc]
  · contradiction

theorem isPlainChar_of_boolean? {t : Text} {v : Scalar} (h : boolean? t = some v) :
    ∀ c ∈ t, isPlainChar c = true := by
  unfold boolean? at h
  split at h
  · next ht =>
    rw [ht]
    exact List.all_eq_true.mp (by decide)
  · obtain ⟨rfl, -⟩ := Option.ite_none_right_eq_some.mp h
    exact List.all_eq_true.mp (by decide)

/-- A character that no number and no boolean is written with makes a literal a text in quotes. -/
theorem inQuotes_of_read? {wanted : ValueType} {t : Text} {v : Scalar}
    (h : read? wanted t = some v) {c : Char} (hc : c ∈ t) (hp : isPlainChar c = false) :
    wanted = .string ∧ ∃ s, t = inQuotes s ∧ v = .string s := by
  cases wanted with
  | string => exact ⟨rfl, string?_eq_some_iff.mp h⟩
  | number =>
    have := isPlainChar_of_number? h hc
    simp [hp] at this
  | boolean =>
    have := isPlainChar_of_boolean? h c hc
    simp [hp] at this

/-- A reference is no literal: of the characters of its selector some are in quotes only. -/
theorem reference?_of_read? {wanted : ValueType} {t : Text} {v : Scalar}
    (h : read? wanted t = some v) : reference? t = none := by
  rw [Option.eq_none_iff_forall_ne_some]
  intro name hr
  obtain ⟨a, b, -, -, -, ht⟩ := reference?_eq_some_iff.mp hr
  have hp : 'p' ∈ t := by simp [ht, referTo, selector_eq]
  obtain ⟨-, s, hs, -⟩ := inQuotes_of_read? h hp (by decide)
  rw [reference?_eq_none (by simp [hs, inQuotes]) isForeign_quote] at hr
  contradiction

end Literal
end ParameterTemplates
