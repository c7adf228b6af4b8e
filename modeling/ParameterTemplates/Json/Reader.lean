import ParameterTemplates.Json.Number

/-! Reading a JSON document. -/
namespace ParameterTemplates.Json

/-- The white space between the tokens of a document. -/
def isSpace (c : Char) : Bool := c == ' ' || c == '\n' || c == '\t' || c == '\r'

def skip (t : Text) : Text := t.dropWhile isSpace

def hexValue? (c : Char) : Option Nat :=
  if '0' ≤ c ∧ c ≤ '9' then some (c.toNat - '0'.toNat)
  else if 'a' ≤ c ∧ c ≤ 'f' then some (c.toNat - 'a'.toNat + 10)
  else if 'A' ≤ c ∧ c ≤ 'F' then some (c.toNat - 'A'.toNat + 10)
  else none

/-- The number of four hexadecimal digits. -/
def hexUnit? (a b c d : Char) : Option Nat := do
  return (((← hexValue? a) * 16 + (← hexValue? b)) * 16 + (← hexValue? c)) * 16 + (← hexValue? d)

/-- The character of an escape of one letter. -/
def unescape? (c : Char) : Option Char :=
  if c = '"' ∨ c = '\\' ∨ c = '/' then some c
  else if c = 'b' then some '\x08'
  else if c = 'f' then some '\x0c'
  else if c = 'n' then some '\n'
  else if c = 'r' then some '\r'
  else if c = 't' then some '\t'
  else none

/-- The character of two surrogates. -/
def pairOf? (high low : Nat) : Option Char :=
  if 0xDC00 ≤ low ∧ low < 0xE000 then
    some (Char.ofNat (0x10000 + (high - 0xD800) * 0x400 + (low - 0xDC00)))
  else none

/-- The rest of a string after its opening quote, and what follows the closing one. A surrogate
stands only before or after its partner. -/
def stringBody? : Text → Option (Text × Text)
  | [] => none
  | '"' :: t => some ([], t)
  | '\\' :: 'u' :: a :: b :: c :: d :: t =>
    match hexUnit? a b c d with
    | none => none
    | some n =>
      if 0xD800 ≤ n ∧ n < 0xDC00 then
        match t with
        | '\\' :: 'u' :: e :: f :: g :: h :: t =>
          match (hexUnit? e f g h).bind (pairOf? n), stringBody? t with
          | some x, some (s, rest) => some (x :: s, rest)
          | _, _ => none
        | _ => none
      else if 0xDC00 ≤ n ∧ n < 0xE000 then none
      else (stringBody? t).map fun (s, rest) => (Char.ofNat n :: s, rest)
  | '\\' :: c :: t =>
    match unescape? c, stringBody? t with
    | some x, some (s, rest) => some (x :: s, rest)
    | _, _ => none
  | c :: t =>
    if c = '\\' ∨ c.toNat < 32 then none
    else (stringBody? t).map fun (s, rest) => (c :: s, rest)

/-- A value that holds no other value. -/
def scalar? : Text → Option (Json × Text)
  | '"' :: t => (stringBody? t).map fun (s, rest) => (.text s, rest)
  | 'n' :: 'u' :: 'l' :: 'l' :: t => some (.null, t)
  | 't' :: 'r' :: 'u' :: 'e' :: t => some (.boolean true, t)
  | 'f' :: 'a' :: 'l' :: 's' :: 'e' :: t => some (.boolean false, t)
  | t => number? t

/-- The items of an array after its bracket; the first argument bounds how many there are. -/
def items? (value? : Text → Option (Json × Text)) : Nat → Text → Option (List Json × Text)
  | 0, _ => none
  | bound + 1, t =>
    match value? (skip t) with
    | none => none
    | some (v, t) =>
      match skip t with
      | ',' :: t => (items? value? bound t).map fun (vs, rest) => (v :: vs, rest)
      | ']' :: t => some ([v], t)
      | _ => none

/-- An object's entry: a string, a colon and a value. -/
def entry? (value? : Text → Option (Json × Text)) (t : Text) : Option ((Text × Json) × Text) :=
  match skip t with
  | '"' :: t =>
    match stringBody? t with
    | none => none
    | some (key, t) =>
      match skip t with
      | ':' :: t => (value? (skip t)).map fun (v, rest) => ((key, v), rest)
      | _ => none
  | _ => none

/-- The entries of an object after its brace, in the order in which they stand. -/
def entries? (value? : Text → Option (Json × Text)) :
    Nat → Text → Option (List (Text × Json) × Text)
  | 0, _ => none
  | bound + 1, t =>
    match entry? value? t with
    | none => none
    | some (e, t) =>
      match skip t with
      | ',' :: t => (entries? value? bound t).map fun (es, rest) => (e :: es, rest)
      | '}' :: t => some ([e], t)
      | _ => none

/-- Of two entries with one key the later one counts. -/
def collect (entries : List (Text × Json)) : Json :=
  .object (entries.foldl (fun es (k, v) => insertEntry k v es) [])

/-- The value at the beginning of a text, nested at most as deep as the first argument says. -/
def value? : Nat → Text → Option (Json × Text)
  | 0, t => scalar? t
  | depth + 1, '[' :: t =>
    match skip t with
    | ']' :: t => some (.array [], t)
    | t => (items? (value? depth) t.length t).map fun (vs, rest) => (.array vs, rest)
  | depth + 1, '{' :: t =>
    match skip t with
    | '}' :: t => some (.object [], t)
    | t => (entries? (value? depth) t.length t).map fun (es, rest) => (collect es, rest)
  | _ + 1, t => scalar? t

/-- Values nested deeper than this are refused. -/
def depthLimit : Nat := 127

/-- A whole document: one value, with nothing but space around it. -/
def read? (t : Text) : Option Json :=
  match value? depthLimit (skip t) with
  | some (v, rest) => if skip rest = [] then some v else none
  | none => none

end ParameterTemplates.Json
