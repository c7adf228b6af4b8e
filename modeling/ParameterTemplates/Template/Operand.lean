import ParameterTemplates.Text.Basic

/-! Operands of a choice: quoted texts with escapes, and bare texts between separators. -/
namespace ParameterTemplates.Template
open Text

/-- Whether a character may stand in a bare operand. -/
def isBare (c : Char) : Bool := c != '?' && c != ':' && c != '"'

/-- The rest of a quoted operand through its closing quote, and what follows. A backslash takes
the next character with it, which must not be a line end. -/
def quotedRest? : Text → Option (Text × Text)
  | [] => none
  | '"' :: t => some (['"'], t)
  | '\\' :: c :: t =>
    if c = '\n' then none else (quotedRest? t).map fun (q, rest) => ('\\' :: c :: q, rest)
  | c :: t => if c = '\\' then none else (quotedRest? t).map fun (q, rest) => (c :: q, rest)

/-- The operand at the beginning of a text, blanks around it left out, and the rest. -/
def operand? (t : Text) : Option (Text × Text) :=
  match dropBlanks t with
  | '"' :: r => (quotedRest? r).map fun (q, rest) => ('"' :: q, dropBlanks rest)
  | r =>
    match dropBlanksRight (r.takeWhile isBare) with
    | [] => none
    | o => some (o, r.dropWhile isBare)

/-- The operand before a separator, and what follows the separator. -/
def operandBefore? (separator : Char) (t : Text) : Option (Text × Text) :=
  match operand? t with
  | some (o, c :: rest) => if c = separator then some (o, rest) else none
  | _ => none

/-- The operand that is all of a text. -/
def lastOperand? (t : Text) : Option Text :=
  match operand? t with
  | some (o, []) => some o
  | _ => none

/-- Looks for a question mark outside of strings. A string runs to the next quote; inside it a
backslash takes the next character with it, whichever that is. -/
def scanQuestion : (quoted : Bool) → Text → Bool
  | _, [] => false
  | false, c :: t => c == '?' || scanQuestion (c == '"') t
  | true, '\\' :: _ :: t => scanQuestion true t
  | true, c :: t => scanQuestion (c != '"') t

def hasOpenQuestion (t : Text) : Bool := scanQuestion false t

end ParameterTemplates.Template
