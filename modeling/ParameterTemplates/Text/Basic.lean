/-! Texts as lists of code points: blanks, trimming, and reading a fixed beginning or end. -/
namespace ParameterTemplates

/-- A text is the list of its code points. -/
abbrev Text := List Char

namespace Text

/-- The Unicode property White_Space. -/
def isBlank (c : Char) : Bool :=
  let n := c.toNat
  (9 ≤ n && n ≤ 13) || n == 0x20 || n == 0x85 || n == 0xA0 || n == 0x1680 ||
    (0x2000 ≤ n && n ≤ 0x200A) || n == 0x2028 || n == 0x2029 || n == 0x202F ||
    n == 0x205F || n == 0x3000

def dropBlanks (t : Text) : Text := t.dropWhile isBlank

def dropBlanksRight (t : Text) : Text := (t.reverse.dropWhile isBlank).reverse

/-- Without the blanks at both ends. -/
def trim (t : Text) : Text := dropBlanksRight (dropBlanks t)

/-- The rest of a text that begins with the first argument. -/
def after? : Text → Text → Option Text
  | [], t => some t
  | _ :: _, [] => none
  | c :: s, d :: t => if c = d then after? s t else none

theorem after?_eq_some_iff {s t r : Text} : after? s t = some r ↔ t = s ++ r := by
  induction s generalizing t with
  | nil => simp [after?]
  | cons c s ih =>
    cases t with
    | nil => simp [after?]
    | cons d t =>
      by_cases h : c = d
      · simp [after?, h, ih]
      · simp [after?, h, Ne.symm h]

/-- The beginning of a text that ends with the first argument. -/
def before? (s t : Text) : Option Text := (after? s.reverse t.reverse).map List.reverse

theorem before?_eq_some_iff {s t r : Text} : before? s t = some r ↔ t = r ++ s := by
  simp only [before?, Option.map_eq_some_iff, after?_eq_some_iff]
  constructor
  · rintro ⟨a, h, rfl⟩
    simpa using congrArg List.reverse h
  · rintro rfl
    exact ⟨r.reverse, by simp, by simp⟩

end Text
end ParameterTemplates
