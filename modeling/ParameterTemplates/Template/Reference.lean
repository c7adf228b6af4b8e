import ParameterTemplates.Text.Basic

/-! Parameter names, and references to parameters. -/
namespace ParameterTemplates.Template
open Text

/-- What a reference begins with. -/
def selector : Text := "params.".toList

/-- Whether a parameter name may begin with a character. -/
def isNameStart (c : Char) : Bool := c.isAlpha || c == '_'

/-- Whether a parameter name may go on with a character. -/
def isNameChar (c : Char) : Bool := c.isAlphanum || c == '_' || c == '-'

/-- The longest name at the beginning of a text, and the rest. -/
def name? : Text → Option (Text × Text)
  | [] => none
  | c :: t =>
    if isNameStart c then some (c :: t.takeWhile isNameChar, t.dropWhile isNameChar) else none

theorem name?_append {t name rest : Text} (h : name? t = some (name, rest)) : t = name ++ rest := by
  cases t with
  | nil => simp [name?] at h
  | cons c t =>
    simp only [name?, Option.ite_none_right_eq_some, Option.some.injEq, Prod.mk.injEq] at h
    obtain ⟨_, rfl, rfl⟩ := h
    simp

/-- The name of a reference after any blanks, and the rest after any blanks. -/
def subject? (t : Text) : Option (Text × Text) := do
  let (name, rest) ← name? (← after? selector (dropBlanks t))
  return (name, dropBlanks rest)

/-- The name that a text refers to, if it is a reference and nothing else. -/
def reference? (t : Text) : Option Text :=
  match subject? t with
  | some (name, []) => some name
  | _ => none

/-- A reference to a parameter. -/
def referTo (name : Text) : Text := selector ++ name

end ParameterTemplates.Template
