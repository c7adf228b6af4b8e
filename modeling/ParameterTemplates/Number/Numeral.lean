import ParameterTemplates.Text.Basic
import ParameterTemplates.Number.Binary64

/-! Decimal numerals and the names of the special doubles, read to the nearest double. -/
namespace ParameterTemplates

/-- A decimal numeral: an optional sign, digits around an optional point, an optional exponent. -/
structure Numeral where
  negative : Bool
  whole : Text
  fraction : Text
  exponent : Int
  deriving DecidableEq

namespace Numeral

/-- An optional sign and what follows it. -/
def sign : Text → Bool × Text
  | '-' :: t => (true, t)
  | '+' :: t => (false, t)
  | t => (false, t)

/-- The number written by a run of digits. -/
def natural (digits : Text) : Nat := Nat.ofDigitChars 10 digits 0

/-- The exponent that ends a numeral: nothing at all, or a mark and a signed run of digits. -/
def exponent? : Text → Option Int
  | [] => some 0
  | c :: t =>
    let (negative, digits) := sign t
    if (c = 'e' ∨ c = 'E') ∧ digits ≠ [] ∧ digits.all Char.isDigit then
      some (if negative then -(natural digits : Int) else natural digits)
    else none

/-- The digits after an optional point, and the rest. -/
def fractionOf : Text → Text × Text
  | '.' :: t => (t.takeWhile Char.isDigit, t.dropWhile Char.isDigit)
  | t => ([], t)

def read? (t : Text) : Option Numeral :=
  let (negative, unsigned) := sign t
  let whole := unsigned.takeWhile Char.isDigit
  let (fraction, rest) := fractionOf (unsigned.dropWhile Char.isDigit)
  if whole = [] ∧ fraction = [] then none
  else (exponent? rest).map fun exponent => ⟨negative, whole, fraction, exponent⟩

def coefficient (n : Numeral) : Nat := natural (n.whole ++ n.fraction)

/-- The power of ten that the coefficient is multiplied by. -/
def scale (n : Numeral) : Int := n.exponent - n.fraction.length

def toBinary64 (n : Numeral) : Binary64 := .ofDecimal n.negative n.coefficient n.scale

end Numeral

namespace Binary64

/-- An infinity or a NaN by its name, in any case. -/
def special? (negative : Bool) (t : Text) : Option Binary64 :=
  let name := t.map Char.toLower
  if name = "inf".toList ∨ name = "infinity".toList then some (.infinity negative)
  else if name = "nan".toList then some .nan
  else none

def read? (t : Text) : Option Binary64 :=
  match Numeral.read? t with
  | some n => some n.toBinary64
  | none => let (negative, name) := Numeral.sign t; special? negative name

end Binary64
end ParameterTemplates
