import ParameterTemplates.Json.Basic
import ParameterTemplates.Number.Numeral

/-! JSON numbers. An integer of 64 bits is exact; of any other number the leading digits that fit
in 64 bits are rounded to a double, which is then scaled by a power of ten. -/
namespace ParameterTemplates.Json

/-- The digits that a JSON number keeps stay below this bound. -/
def coefficientLimit : Nat := Nat.pow 2 64

/-- Appends digits to a coefficient until one would pass the limit, and gives back the others. -/
def appendDigits (coefficient : Nat) : Text → Nat × Text
  | [] => (coefficient, [])
  | c :: t =>
    let next := coefficient * 10 + (c.toNat - '0'.toNat)
    if next < coefficientLimit then appendDigits next t else (coefficient, c :: t)

/-- A power of ten as a double. -/
def powerOfTen (n : Nat) : Binary64 := .ofDecimal false 1 n

def timesPower (x : Binary64) (n : Nat) : Binary64 :=
  match x, powerOfTen n with
  | .finite _ a, .finite _ b => a.multipliedBy b
  | x, _ => x

def overPower (x : Binary64) (n : Nat) : Binary64 :=
  match x, powerOfTen n with
  | .finite _ a, .finite _ b => a.dividedBy b
  | x, _ => x

/-- A coefficient below the limit times a power of ten, by one product or by at most two quotients
of doubles; nothing if the result is too large. -/
def scaled? (coefficient : Nat) (exponent : Int) : Option Binary64 :=
  let x := Binary64.ofRatio false coefficient 1
  if coefficient = 0 then some x
  else if 308 < exponent then none
  else if 0 ≤ exponent then
    let y := timesPower x exponent.toNat
    if y.isFinite then some y else none
  else if -308 ≤ exponent then some (overPower x (-exponent).toNat)
  else if -616 ≤ exponent then some (overPower (overPower x 308) (-exponent - 308).toNat)
  else some (Binary64.zero false)

/-- The double of a number with a fraction, an exponent or too many digits. -/
def double? (whole fraction : Text) (exponent : Int) : Option Binary64 :=
  let (head, dropped) := appendDigits 0 whole
  let (coefficient, ignored) := appendDigits head fraction
  scaled? coefficient (exponent + dropped.length - (fraction.length - ignored.length))

/-- The value of a whole number, which has to fit in 64 bits to be an integer. -/
def whole? (negative : Bool) (digits : Text) : Option Json :=
  let n := Numeral.natural digits
  if negative then
    if n = 0 ∨ Nat.pow 2 63 < n then (double? digits [] 0).map fun x => .double x.negate
    else some (.integer (-n))
  else if n < coefficientLimit then some (.integer n)
  else (double? digits [] 0).map .double

/-- The exponent of a number, if it has one, and the rest. -/
def exponentPart? : Text → Option (Option Int × Text)
  | [] => some (none, [])
  | c :: t =>
    if c = 'e' ∨ c = 'E' then
      let (negative, unsigned) := Numeral.sign t
      let digits := unsigned.takeWhile Char.isDigit
      if digits = [] then none
      else
        let n : Int := Numeral.natural digits
        some (some (if negative then -n else n), unsigned.dropWhile Char.isDigit)
    else some (none, c :: t)

/-- The fraction of a number, if it has one, and the rest. -/
def fractionPart? : Text → Option (Text × Text)
  | '.' :: t =>
    let digits := t.takeWhile Char.isDigit
    if digits = [] then none else some (digits, t.dropWhile Char.isDigit)
  | t => some ([], t)

/-- The digits before a point: a leading zero stands alone. -/
def wholePart? (t : Text) : Option (Text × Text) :=
  let digits := t.takeWhile Char.isDigit
  if digits = [] ∨ (digits.head? = some '0' ∧ digits ≠ ['0']) then none
  else some (digits, t.dropWhile Char.isDigit)

/-- The number at the beginning of a text, and the rest. -/
def number? (t : Text) : Option (Json × Text) := do
  let (negative, unsigned) := match t with
    | '-' :: r => (true, r)
    | r => (false, r)
  let (whole, afterWhole) ← wholePart? unsigned
  let (fraction, afterFraction) ← fractionPart? afterWhole
  let (exponent, rest) ← exponentPart? afterFraction
  if fraction = [] ∧ exponent = none then
    return (← whole? negative whole, rest)
  else
    let x ← double? whole fraction (exponent.getD 0)
    return (.double (if negative then x.negate else x), rest)

end ParameterTemplates.Json
