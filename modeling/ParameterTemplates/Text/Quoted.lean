import ParameterTemplates.Text.Basic
import ParameterTemplates.Text.Visible

/-! Texts in double quotes, with every character that would not show written as an escape. -/
namespace ParameterTemplates.Text

/-- One character inside quotes. -/
def quoteChar (c : Char) : Text :=
  if c = '"' then ['\\', '"']
  else if c = '\\' then ['\\', '\\']
  else if c = '\n' then ['\\', 'n']
  else if c = '\r' then ['\\', 'r']
  else if c = '\t' then ['\\', 't']
  else if c.toNat = 0 then ['\\', '0']
  else if isVisible c then [c]
  else ['\\', 'u', '{'] ++ Nat.toDigits 16 c.toNat ++ ['}']

def quoted (t : Text) : Text := ['"'] ++ t.flatMap quoteChar ++ ['"']

end ParameterTemplates.Text
