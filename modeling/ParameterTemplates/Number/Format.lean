import ParameterTemplates.Text.Basic
import ParameterTemplates.Number.Shortest

/-! Writing doubles: one layout of shortest digits, and a record of what each output decides. -/
namespace ParameterTemplates

/-- The decisions of one way to write doubles. -/
structure NumberFormat where
  tie : Tie
  /-- The powers of ten of the leading digit that are written without an exponent. -/
  positional : Int → Bool
  /-- Whether a whole number written without an exponent keeps a zero after the point. -/
  keepsPoint : Bool
  /-- Whether an exponent that is not negative has a sign. -/
  signsExponent : Bool
  nan : Text
  infinity : Bool → Text

namespace NumberFormat

def digits (n : Nat) : Text := Nat.toDigits 10 n

def zeros (n : Nat) : Text := List.replicate n '0'

def integer (n : Int) : Text := (if n < 0 then ['-'] else []) ++ digits n.natAbs

/-- Without an exponent: zeros are filled in on either side of the digits. -/
def writePositional (f : NumberFormat) (d : Decimal) : Text :=
  let ds := digits d.digits
  if 0 ≤ d.exponent then ds ++ zeros d.exponent.toNat ++ if f.keepsPoint then ['.', '0'] else []
  else
    let places := (-d.exponent).toNat
    if places < ds.length then
      ds.take (ds.length - places) ++ ['.'] ++ ds.drop (ds.length - places)
    else ['0', '.'] ++ zeros (places - ds.length) ++ ds

/-- With an exponent: one digit stands before the point. -/
def writeScientific (f : NumberFormat) (d : Decimal) : Text :=
  let ds := digits d.digits
  let exponent := d.exponent + ds.length - 1
  ds.take 1 ++ (if 1 < ds.length then '.' :: ds.drop 1 else []) ++ ['e'] ++
    (if f.signsExponent ∧ 0 ≤ exponent then ['+'] else []) ++ integer exponent

def writeDecimal (f : NumberFormat) (d : Decimal) : Text :=
  if d.digits = 0 then f.writePositional ⟨0, 0⟩
  else if f.positional (d.exponent + (digits d.digits).length - 1) then f.writePositional d
  else f.writeScientific d

def write (f : NumberFormat) : Binary64 → Text
  | .nan => f.nan
  | .infinity s => f.infinity s
  | .finite s m =>
    (if s then ['-'] else []) ++ f.writeDecimal (if m.units = 0 then ⟨0, 0⟩ else m.shortest f.tie)

end NumberFormat

/-- Never an exponent, and no point in a whole number. -/
def plainNumber : NumberFormat where
  tie := .up
  positional _ := true
  keepsPoint := false
  signsExponent := false
  nan := "NaN".toList
  infinity s := if s then "-inf".toList else "inf".toList

/-- An exponent below 0.0001 and from 10 ^ 16 on. -/
def debugNumber : NumberFormat where
  tie := .up
  positional e := -4 ≤ e && e < 16
  keepsPoint := true
  signsExponent := false
  nan := "NaN".toList
  infinity s := if s then "-inf".toList else "inf".toList

/-- A signed exponent below 0.00001 and from 10 ^ 16 on; what is not finite is null. -/
def jsonNumber : NumberFormat where
  tie := .even
  positional e := -5 ≤ e && e < 16
  keepsPoint := true
  signsExponent := true
  nan := "null".toList
  infinity _ := "null".toList

end ParameterTemplates
