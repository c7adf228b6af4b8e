import ParameterTemplates.Json.Reader
import ParameterTemplates.Proofs.Numerals
import ParameterTemplates.Value.Scalar

/-! JSON documents that hold no other document: strings, numbers, the truth values and null, with
space around them. Their texts are given by a grammar, and the reader takes exactly these texts. -/
namespace ParameterTemplates.Json
open Text Template Numeral

/-- What stands between the quotes of a string, and the text that it denotes. -/
inductive StringBody : Text → Text → Prop where
  | nil : StringBody [] []
  | plain {c : Char} {t s : Text} : c ≠ '"' → c ≠ '\\' → 32 ≤ c.toNat → StringBody t s →
      StringBody (c :: t) (c :: s)
  | letter {c x : Char} {t s : Text} : unescape? c = some x → StringBody t s →
      StringBody ('\\' :: c :: t) (x :: s)
  | unit {a b c d : Char} {n : Nat} {t s : Text} : hexUnit? a b c d = some n →
      ¬ (0xD800 ≤ n ∧ n < 0xE000) → StringBody t s →
      StringBody ('\\' :: 'u' :: a :: b :: c :: d :: t) (Char.ofNat n :: s)
  | pair {a b c d e f g h x : Char} {high low : Nat} {t s : Text} :
      hexUnit? a b c d = some high → 0xD800 ≤ high → high < 0xDC00 →
      hexUnit? e f g h = some low → pairOf? high low = some x → StringBody t s →
      StringBody ('\\' :: 'u' :: a :: b :: c :: d :: '\\' :: 'u' :: e :: f :: g :: h :: t) (x :: s)

section Strings

variable {t s body rest : Text}

theorem ne_u_of_unescape? {c x : Char} (h : unescape? c = some x) : c ≠ 'u' := by
  rintro rfl
  contradiction

/-- The reader takes a body as it is, whatever comes next. -/
theorem StringBody.stringBody?_append (h : StringBody body s) (rest : Text) :
    stringBody? (body ++ rest) = (stringBody? rest).map fun p => (s ++ p.1, p.2) := by
  induction h with
  | nil => simp
  | plain hquote hbackslash hcontrol _ ih =>
    have hne : ¬ (_ = '\\' ∨ _ < 32) := not_or.mpr ⟨hbackslash, Nat.not_lt.mpr hcontrol⟩
    rw [List.cons_append, stringBody?, if_neg hne, ih]
    · simp [Function.comp_def]
    all_goals simp_all
  | letter hx _ ih =>
    have hne := ne_u_of_unescape? hx
    rw [List.cons_append, List.cons_append, stringBody?, hx, ih]
    · cases stringBody? rest <;> rfl
    · simp_all
  | @unit a b c d n t s hn hnot _ ih =>
    have hhigh : ¬ (0xD800 ≤ n ∧ n < 0xDC00) := fun h => hnot ⟨h.1, by omega⟩
    have hlow : ¬ (0xDC00 ≤ n ∧ n < 0xE000) := fun h => hnot ⟨by omega, h.2⟩
    simp only [List.cons_append, stringBody?, hn, if_neg hhigh, if_neg hlow, ih]
    cases stringBody? rest <;> rfl
  | pair hhigh hge hlt hlow hx _ ih =>
    simp only [List.cons_append, stringBody?, hhigh, hlow, if_pos (And.intro hge hlt),
      Option.bind_some, hx, ih]
    cases stringBody? rest <;> rfl

theorem exists_body_of_stringBody? (h : stringBody? t = some (s, rest)) :
    ∃ body, t = body ++ '"' :: rest ∧ StringBody body s := by
  fun_induction stringBody? t generalizing s rest with
  | case2 t =>
    cases h
    exact ⟨[], rfl, .nil⟩
  | case4 a b c d n hn hhigh e f g h' t x s' rest' ht hx ih =>
    cases h
    obtain ⟨low, hlow, hx⟩ := Option.bind_eq_some_iff.mp hx
    obtain ⟨body, rfl, hbody⟩ := ih ht
    exact ⟨_, rfl, .pair hn hhigh.1 hhigh.2 hlow hx hbody⟩
  | case8 a b c d t n hn hhigh hlow ih =>
    obtain ⟨⟨s', rest'⟩, ht, h⟩ := Option.map_eq_some_iff.mp h
    cases h
    obtain ⟨body, rfl, hbody⟩ := ih ht
    exact ⟨_, rfl, .unit hn (by omega) hbody⟩
  | case9 c t _ x s' rest' ht hx ih =>
    cases h
    obtain ⟨body, rfl, hbody⟩ := ih ht
    exact ⟨_, rfl, .letter hx hbody⟩
  | case12 c t hquote _ _ hplain ih =>
    obtain ⟨⟨s', rest'⟩, ht, h⟩ := Option.map_eq_some_iff.mp h
    cases h
    obtain ⟨hbackslash, hcontrol⟩ := not_or.mp hplain
    obtain ⟨body, rfl, hbody⟩ := ih ht
    exact ⟨_, rfl, .plain hquote hbackslash (Nat.not_lt.mp hcontrol) hbody⟩
  | _ => contradiction

/-- A string ends at the first quote that is not escaped. -/
theorem stringBody?_eq_some_iff :
    stringBody? t = some (s, rest) ↔ ∃ body, t = body ++ '"' :: rest ∧ StringBody body s := by
  refine ⟨exists_body_of_stringBody?, ?_⟩
  rintro ⟨body, rfl, hbody⟩
  simp [hbody.stringBody?_append, stringBody?]

theorem hexUnit?_digitChar : ∀ n < 32,
    hexUnit? '0' '0' (Nat.digitChar (n / 16)) (Nat.digitChar (n % 16)) = some n := by
  decide

/-- Escaping a character adds it to what a body denotes. -/
theorem StringBody.escape (c : Char) (h : StringBody t s) :
    StringBody (Json.escape c ++ t) (c :: s) := by
  unfold Json.escape
  split_ifs with hquote hbackslash hb ht hn hf hr hcontrol
  · exact .letter (by rw [hquote]; rfl) h
  · exact .letter (by rw [hbackslash]; rfl) h
  · exact .letter (by rw [(Char.toNat_inj.mp hb : c = '\x08')]; rfl) h
  · exact .letter (by rw [(Char.toNat_inj.mp ht : c = '\t')]; rfl) h
  · exact .letter (by rw [(Char.toNat_inj.mp hn : c = '\n')]; rfl) h
  · exact .letter (by rw [(Char.toNat_inj.mp hf : c = '\x0c')]; rfl) h
  · exact .letter (by rw [(Char.toNat_inj.mp hr : c = '\r')]; rfl) h
  · have hunit := StringBody.unit (hexUnit?_digitChar _ hcontrol) (by omega) h
    rwa [Char.ofNat_toNat] at hunit
  · exact .plain hquote hbackslash (Nat.not_lt.mp hcontrol) h

theorem stringBody_flatMap_escape (s : Text) : StringBody (s.flatMap Json.escape) s := by
  induction s with
  | nil => exact .nil
  | cons c s ih => exact ih.escape c

/-- Quotes, backslashes and control characters are escaped, and nothing else is. -/
theorem escape_eq_singleton_iff {c : Char} :
    Json.escape c = [c] ↔ c ≠ '"' ∧ c ≠ '\\' ∧ 32 ≤ c.toNat := by
  unfold Json.escape
  split_ifs <;> simp_all

end Strings

section Numbers

/-- An optional minus sign. -/
inductive IsMinus : Bool → Text → Prop where
  | none : IsMinus false []
  | minus : IsMinus true ['-']

/-- The digits before a point: a zero in front stands alone. -/
def IsWhole (t : Text) : Prop := IsDigits t ∧ t ≠ [] ∧ (t.head? = some '0' → t = ['0'])

/-- An optional point with the digits after it, of which there is one at least. -/
inductive IsPart : Text → Text → Prop where
  | none : IsPart [] []
  | point {digits : Text} : IsDigits digits → digits ≠ [] → IsPart digits ('.' :: digits)

/-- What a number is written from. -/
structure NumberParts where
  negative : Bool
  whole : Text
  fraction : Text
  exponent : Option Int

namespace NumberParts

inductive Written : NumberParts → Text → Prop where
  | mk {negative : Bool} {s whole fraction f x : Text} {e : Option Int} : IsMinus negative s →
      IsWhole whole → IsPart fraction f → IsExponent e x →
      Written ⟨negative, whole, fraction, e⟩ (s ++ (whole ++ (f ++ x)))

/-- The value of a number, unless it is out of range. -/
def value? (p : NumberParts) : Option Json :=
  if p.fraction = [] ∧ p.exponent = none then whole? p.negative p.whole
  else (double? p.whole p.fraction (p.exponent.getD 0)).map fun x =>
    .double (if p.negative then x.negate else x)

end NumberParts

variable {t rest whole fraction : Text} {e : Option Int}

/-- Whether a number does not go on with a text. -/
def EndsNumber (t : Text) : Prop :=
  ∀ c ∈ t.head?, c.isDigit = false ∧ c ≠ '.' ∧ c ≠ 'e' ∧ c ≠ 'E'

theorem wholePart?_eq_some_iff : wholePart? t = some (whole, rest) ↔
    IsWhole whole ∧ t = whole ++ rest ∧ ∀ c ∈ rest.head?, c.isDigit = false := by
  simp only [wholePart?, Option.ite_none_left_eq_some, not_or, not_and, not_not, Option.some.injEq,
    Prod.mk.injEq]
  constructor
  · rintro ⟨⟨hne, hzero⟩, rfl, rfl⟩
    exact ⟨⟨isDigits_takeWhile t, hne, hzero⟩, by simp, head?_dropWhile t⟩
  · rintro ⟨⟨hdigits, hne, hzero⟩, rfl, hrest⟩
    rw [takeWhile_append_eq hdigits hrest, dropWhile_append_eq hdigits hrest]
    exact ⟨⟨hne, hzero⟩, rfl, rfl⟩

theorem exists_part_of_fractionPart? (h : fractionPart? t = some (fraction, rest)) :
    ∃ f, IsPart fraction f ∧ t = f ++ rest := by
  unfold fractionPart? at h
  split at h
  · next t =>
    obtain ⟨hne, h⟩ := Option.ite_none_left_eq_some.mp h
    cases h
    exact ⟨_, .point (isDigits_takeWhile t) hne, by simp⟩
  · cases h
    exact ⟨[], .none, rfl⟩

theorem fractionPart?_append {f : Text} (h : IsPart fraction f)
    (hrest : ∀ c ∈ rest.head?, c.isDigit = false ∧ c ≠ '.') :
    fractionPart? (f ++ rest) = some (fraction, rest) := by
  have hstop : ∀ c ∈ rest.head?, c.isDigit = false := fun c hc => (hrest c hc).1
  cases h with
  | point hdigits hne =>
    simp only [List.cons_append, fractionPart?, takeWhile_append_eq hdigits hstop,
      dropWhile_append_eq hdigits hstop, if_neg hne]
  | none =>
    rw [List.nil_append]
    unfold fractionPart?
    split
    · exact absurd rfl (hrest '.' rfl).2
    · rfl

theorem exists_exponent_of_exponentPart? (h : exponentPart? t = some (e, rest)) :
    ∃ x, IsExponent e x ∧ t = x ++ rest := by
  unfold exponentPart? at h
  split at h
  · cases h
    exact ⟨[], .none, rfl⟩
  · next c t =>
    split at h
    · next hc =>
      obtain ⟨s, hs, ht⟩ := isSign_sign t
      generalize sign t = signed at h hs ht
      obtain ⟨negative, unsigned⟩ := signed
      obtain ⟨hne, h⟩ := Option.ite_none_left_eq_some.mp h
      cases h
      refine ⟨_, .mark hc hs (isDigits_takeWhile unsigned) hne, ?_⟩
      rw [List.cons_append, List.append_assoc, List.takeWhile_append_dropWhile, ← ht]
    · cases h
      exact ⟨[], .none, rfl⟩

theorem exponentPart?_append {x : Text} (h : IsExponent e x) (hrest : EndsNumber rest) :
    exponentPart? (x ++ rest) = some (e, rest) := by
  cases h with
  | none =>
    cases rest with
    | nil => rfl
    | cons c rest =>
      have hc : ¬ (c = 'e' ∨ c = 'E') := not_or.mpr (hrest c rfl).2.2
      rw [List.nil_append, exponentPart?, if_neg hc]
  | @mark c s digits negative hc hs hdigits hne =>
    have hstop : ∀ c ∈ rest.head?, c.isDigit = false := fun c h => (hrest c h).1
    have hhead : ∀ c ∈ (digits ++ rest).head?, c ≠ '+' ∧ c ≠ '-' := by
      rw [List.head?_append_of_ne_nil _ hne]
      exact hdigits.head_ne_sign
    simp only [List.cons_append, List.append_assoc, exponentPart?, if_pos hc,
      sign_append hs hhead, takeWhile_append_eq hdigits hstop, dropWhile_append_eq hdigits hstop,
      if_neg hne, signed]

/-- The number after its sign. -/
def unsigned? (negative : Bool) (t : Text) : Option (Json × Text) := do
  let (whole, afterWhole) ← wholePart? t
  let (fraction, afterFraction) ← fractionPart? afterWhole
  let (exponent, rest) ← exponentPart? afterFraction
  return (← NumberParts.value? ⟨negative, whole, fraction, exponent⟩, rest)

theorem NumberParts.value?_bind (p : NumberParts) (rest : Text) :
    (do return (← p.value?, rest)) =
      if p.fraction = [] ∧ p.exponent = none then do return (← whole? p.negative p.whole, rest)
      else do
        let x ← double? p.whole p.fraction (p.exponent.getD 0)
        return (.double (if p.negative then x.negate else x), rest) := by
  unfold value?
  split
  · rfl
  · cases double? p.whole p.fraction (p.exponent.getD 0) <;> rfl

theorem number?_minus (t : Text) : number? ('-' :: t) = unsigned? true t := by
  simp only [number?, unsigned?, NumberParts.value?_bind]

theorem number?_of_head_ne (h : ∀ c ∈ t.head?, c ≠ '-') : number? t = unsigned? false t := by
  simp only [number?, unsigned?, NumberParts.value?_bind]
  split
  · exact absurd rfl (h '-' rfl)
  · rfl

theorem exists_parts_of_unsigned? {json : Json} {negative : Bool} {s : Text}
    (hs : IsMinus negative s) (h : unsigned? negative t = some (json, rest)) :
    ∃ (p : NumberParts) (text : Text), p.Written text ∧ s ++ t = text ++ rest ∧
      p.value? = some json := by
  simp only [unsigned?, Option.bind_eq_bind, Option.bind_eq_some_iff, Option.pure_def,
    Option.some.injEq, Prod.mk.injEq] at h
  obtain ⟨⟨whole, a⟩, hread, ⟨fraction, b⟩, hfraction, ⟨e, r⟩, hexponent, v, hv, rfl, rfl⟩ := h
  obtain ⟨hwhole, rfl, -⟩ := wholePart?_eq_some_iff.mp hread
  obtain ⟨f, hf, rfl⟩ := exists_part_of_fractionPart? hfraction
  obtain ⟨x, hx, rfl⟩ := exists_exponent_of_exponentPart? hexponent
  exact ⟨_, _, .mk hs hwhole hf hx, by simp, hv⟩

theorem exists_parts_of_number? {json : Json} (h : number? t = some (json, rest)) :
    ∃ (p : NumberParts) (text : Text), p.Written text ∧ t = text ++ rest ∧
      p.value? = some json := by
  by_cases hminus : ∃ u, t = '-' :: u
  · obtain ⟨u, rfl⟩ := hminus
    rw [number?_minus] at h
    exact exists_parts_of_unsigned? .minus h
  · have hhead : ∀ c ∈ t.head?, c ≠ '-' := by
      rintro c hc rfl
      exact hminus ⟨_, List.eq_cons_of_mem_head? hc⟩
    rw [number?_of_head_ne hhead] at h
    exact exists_parts_of_unsigned? .none h

theorem stops_of_isExponent {x : Text} (hx : IsExponent e x) (hrest : EndsNumber rest) :
    ∀ c ∈ (x ++ rest).head?, c.isDigit = false ∧ c ≠ '.' := by
  cases hx with
  | none => exact fun c hc => ⟨(hrest c hc).1, (hrest c hc).2.1⟩
  | mark hc _ _ _ => rcases hc with rfl | rfl <;> simp

theorem IsPart.stops {f x : Text} (hf : IsPart fraction f) (hx : IsExponent e x)
    (hrest : EndsNumber rest) : ∀ c ∈ (f ++ (x ++ rest)).head?, c.isDigit = false := by
  cases hf with
  | none => exact fun c hc => (stops_of_isExponent hx hrest c hc).1
  | point => simp

/-- The whole of a number is read, and nothing of what follows. -/
theorem NumberParts.Written.number?_append {p : NumberParts} {text : Text} (h : p.Written text)
    (hrest : EndsNumber rest) : number? (text ++ rest) = p.value?.map (·, rest) := by
  cases h with
  | @mk negative s whole fraction f x e hs hwhole hf hx =>
    have hparts : unsigned? negative (whole ++ (f ++ (x ++ rest))) =
        (value? ⟨negative, whole, fraction, e⟩).map (·, rest) := by
      have hread := wholePart?_eq_some_iff.mpr ⟨hwhole, rfl, hf.stops hx hrest⟩
      have hfraction := fractionPart?_append hf (stops_of_isExponent hx hrest)
      simp only [unsigned?, hread, hfraction, exponentPart?_append hx hrest, Option.bind_eq_bind,
        Option.bind_some, Option.pure_def]
      cases value? ⟨negative, whole, fraction, e⟩ <;> rfl
    have hhead : ∀ c ∈ (whole ++ (f ++ (x ++ rest))).head?, c ≠ '-' := by
      rw [List.head?_append_of_ne_nil _ hwhole.2.1]
      exact fun c hc => (hwhole.1.head_ne_sign c hc).2
    simp only [List.append_assoc]
    rw [← hparts]
    cases hs with
    | none => exact number?_of_head_ne hhead
    | minus => exact number?_minus _

end Numbers
section Documents

/-- Whether a value is a string, a number or a boolean. -/
inductive IsScalar : Json → Prop where
  | text (t : Text) : IsScalar (.text t)
  | boolean (b : Bool) : IsScalar (.boolean b)
  | integer (n : Int) : IsScalar (.integer n)
  | double (x : Binary64) : IsScalar (.double x)

theorem exists_ofJson_iff {json : Json} : (∃ v, Scalar.ofJson json = .ok v) ↔ json.IsScalar := by
  constructor
  · rintro ⟨v, h⟩
    cases json with
    | null | array | object => contradiction
    | text t => exact .text t
    | boolean b => exact .boolean b
    | integer n => exact .integer n
    | double x => exact .double x
  · intro h
    cases h <;> exact ⟨_, rfl⟩

theorem ofJson_eq_error_iff {json : Json} {fault : UnsupportedValue} :
    Scalar.ofJson json = .error fault ↔ ¬ json.IsScalar ∧ fault = ⟨json⟩ := by
  rw [← exists_ofJson_iff]
  cases json <;> simp [Scalar.ofJson, eq_comm]

theorem isScalar_of_whole? {negative : Bool} {digits : Text} {json : Json}
    (h : whole? negative digits = some json) : json.IsScalar := by
  simp only [whole?] at h
  split at h <;> split at h
  · obtain ⟨x, -, rfl⟩ := Option.map_eq_some_iff.mp h
    exact .double _
  · cases h
    exact .integer _
  · cases h
    exact .integer _
  · obtain ⟨x, -, rfl⟩ := Option.map_eq_some_iff.mp h
    exact .double _

theorem NumberParts.isScalar_of_value? {p : NumberParts} {json : Json} (h : p.value? = some json) :
    json.IsScalar := by
  unfold value? at h
  split at h
  · exact isScalar_of_whole? h
  · obtain ⟨x, -, rfl⟩ := Option.map_eq_some_iff.mp h
    exact .double _

/-- The texts of the values that hold no other value. -/
inductive IsToken : Json → Text → Prop where
  | text {body s : Text} : StringBody body s → IsToken (.text s) ('"' :: (body ++ ['"']))
  | null : IsToken .null "null".toList
  | boolean (b : Bool) : IsToken (.boolean b) (writeBoolean b)
  | number {p : NumberParts} {json : Json} {t : Text} : p.Written t → p.value? = some json →
      IsToken json t

def IsSpaces (t : Text) : Prop := ∀ c ∈ t, isSpace c = true

/-- A document with space around a token. -/
inductive IsDocument : Json → Text → Prop where
  | mk {a token b : Text} {json : Json} : IsSpaces a → IsToken json token → IsSpaces b →
      IsDocument json (a ++ token ++ b)

variable {t a b token rest : Text} {json : Json}

theorem isToken_writeText (s : Text) : IsToken (.text s) (writeText s) :=
  .text (stringBody_flatMap_escape s)

theorem isSpace_iff {c : Char} : isSpace c = true ↔ c ∈ [' ', '\n', '\t', '\r'] := by
  simp [isSpace, or_assoc]

theorem isSpaces_nil : IsSpaces [] := by simp [IsSpaces]

theorem IsToken.isDocument (h : IsToken json token) : IsDocument json token := by
  simpa using IsDocument.mk isSpaces_nil h isSpaces_nil

theorem IsSpaces.endsNumber (h : IsSpaces t) : EndsNumber t := by
  intro c hc
  have hends : ∀ d ∈ [' ', '\n', '\t', '\r'],
      d.isDigit = false ∧ d ≠ '.' ∧ d ≠ 'e' ∧ d ≠ 'E' := by simp
  exact hends c (isSpace_iff.mp (h c (List.mem_of_mem_head? hc)))

theorem IsSpaces.skip_eq_nil (h : IsSpaces t) : skip t = [] := List.dropWhile_eq_nil_iff.mpr h

theorem skip_append (ha : IsSpaces a) (ht : ∀ c ∈ t.head?, isSpace c = false) :
    skip (a ++ t) = t := dropWhile_append_eq ha ht

theorem exists_spaces_append_skip (t : Text) : ∃ a, IsSpaces a ∧ t = a ++ skip t :=
  ⟨t.takeWhile isSpace, fun _ hc => List.mem_takeWhile_imp hc,
    (List.takeWhile_append_dropWhile).symm⟩

theorem NumberParts.Written.head {p : NumberParts} (h : p.Written t) :
    ∃ c, t.head? = some c ∧ (c = '-' ∨ c.isDigit = true) := by
  obtain ⟨hs, ⟨hdigits, hne, -⟩, -, -⟩ := h
  cases hs with
  | minus => exact ⟨'-', rfl, .inl rfl⟩
  | none =>
    obtain ⟨c, whole, rfl⟩ := List.exists_cons_of_ne_nil hne
    exact ⟨c, rfl, .inr (hdigits c List.mem_cons_self)⟩

/-- What opens a number opens no other value. -/
theorem scalar?_of_written {p : NumberParts} (h : p.Written t) (rest : Text) :
    scalar? (t ++ rest) = number? (t ++ rest) := by
  obtain ⟨c, hc, hhead⟩ := h.head
  obtain ⟨u, rfl⟩ : ∃ u, t = c :: u := ⟨_, List.eq_cons_of_mem_head? hc⟩
  have hne : c ≠ '"' ∧ c ≠ 'n' ∧ c ≠ 't' ∧ c ≠ 'f' := by
    refine ⟨?_, ?_, ?_, ?_⟩ <;> rintro rfl <;> simp at hhead
  unfold scalar?
  split <;> simp_all

theorem IsToken.scalar?_append (h : IsToken json token) (hrest : IsSpaces rest) :
    scalar? (token ++ rest) = some (json, rest) := by
  cases h with
  | @text body s hbody =>
    have hstring : stringBody? (body ++ '"' :: rest) = some (s, rest) :=
      stringBody?_eq_some_iff.mpr ⟨body, rfl, hbody⟩
    simp [scalar?, hstring]
  | null => rfl
  | boolean b => cases b <;> rfl
  | number hp hvalue =>
    rw [scalar?_of_written hp, hp.number?_append hrest.endsNumber, hvalue]
    rfl

theorem exists_token_of_scalar? (h : scalar? t = some (json, rest)) :
    ∃ token, IsToken json token ∧ t = token ++ rest := by
  unfold scalar? at h
  split at h
  · obtain ⟨⟨s, r⟩, hs, h⟩ := Option.map_eq_some_iff.mp h
    cases h
    obtain ⟨body, rfl, hbody⟩ := stringBody?_eq_some_iff.mp hs
    exact ⟨_, .text hbody, by simp⟩
  · cases h
    exact ⟨_, .null, rfl⟩
  · cases h
    exact ⟨_, .boolean true, rfl⟩
  · cases h
    exact ⟨_, .boolean false, rfl⟩
  · obtain ⟨p, text, hp, rfl, hvalue⟩ := exists_parts_of_number? h
    exact ⟨text, .number hp hvalue, rfl⟩

theorem IsToken.eq_null_or_isScalar (h : IsToken json token) : json = .null ∨ json.IsScalar := by
  cases h with
  | text => exact .inr (.text _)
  | null => exact .inl rfl
  | boolean b => exact .inr (.boolean b)
  | number _ hvalue => exact .inr (NumberParts.isScalar_of_value? hvalue)

theorem NumberParts.Written.head_append {p : NumberParts} (h : p.Written t) (rest : Text) :
    ∀ c ∈ (t ++ rest).head?, isSpace c = false ∧ c ≠ '[' ∧ c ≠ '\x7b' := by
  obtain ⟨c, hc, hhead⟩ := h.head
  obtain ⟨u, rfl⟩ : ∃ u, t = c :: u := ⟨_, List.eq_cons_of_mem_head? hc⟩
  have hspace : isSpace c = false := by
    rw [Bool.eq_false_iff, Ne, isSpace_iff]
    intro hmem
    have hmarks : ∀ d ∈ [' ', '\n', '\t', '\r'], ¬ (d = '-' ∨ d.isDigit = true) := by simp
    exact hmarks c hmem hhead
  rintro d hd
  obtain rfl : c = d := by simpa using hd
  refine ⟨hspace, ?_, ?_⟩ <;> rintro rfl <;> simp at hhead

/-- A token begins with no space and opens neither an array nor an object. -/
theorem IsToken.head_append (h : IsToken json token) (rest : Text) :
    ∀ c ∈ (token ++ rest).head?, isSpace c = false ∧ c ≠ '[' ∧ c ≠ '\x7b' := by
  cases h with
  | number hp _ => exact hp.head_append rest
  | text => simp [isSpace]
  | null => simp [isSpace]
  | boolean b => cases b <;> simp [isSpace, writeBoolean]

theorem value?_of_head (h : ∀ c ∈ t.head?, c ≠ '[' ∧ c ≠ '\x7b') (depth : Nat) :
    value? depth t = scalar? t := by
  unfold value?
  split
  · rfl
  · exact absurd rfl (h '[' rfl).1
  · exact absurd rfl (h '\x7b' rfl).2
  · rfl

theorem scalar?_of_value? {depth : Nat} (h : value? depth t = some (json, rest))
    (hjson : json = .null ∨ json.IsScalar) : scalar? t = some (json, rest) := by
  have harray : ∀ items, json ≠ .array items := by
    rintro items rfl
    rcases hjson with h | h <;> cases h
  have hobject : ∀ entries, json ≠ .object entries := by
    rintro entries rfl
    rcases hjson with h | h <;> cases h
  unfold value? at h
  split at h
  · exact h
  · split at h
    · cases h
      exact absurd rfl (harray _)
    · obtain ⟨p, -, h⟩ := Option.map_eq_some_iff.mp h
      cases h
      exact absurd rfl (harray _)
  · split at h
    · cases h
      exact absurd rfl (hobject _)
    · obtain ⟨p, -, h⟩ := Option.map_eq_some_iff.mp h
      cases h
      exact absurd rfl (hobject _)
  · exact h

/-- Space before a value that is neither an array nor an object is passed over, and nothing but
space may follow it. -/
theorem read?_append (ha : IsSpaces a)
    (ht : ∀ c ∈ t.head?, isSpace c = false ∧ c ≠ '[' ∧ c ≠ '\x7b') :
    Json.read? (a ++ t) = (scalar? t).bind fun p => if skip p.2 = [] then some p.1 else none := by
  rw [Json.read?, skip_append ha fun c hc => (ht c hc).1,
    value?_of_head fun c hc => (ht c hc).2]
  cases scalar? t <;> rfl

/-- A document is read as its value. -/
theorem IsDocument.read? (h : IsDocument json t) : Json.read? t = some json := by
  cases h with
  | mk ha htoken hb =>
    rw [List.append_assoc, read?_append ha (htoken.head_append _), htoken.scalar?_append hb]
    simp [hb.skip_eq_nil]

theorem IsDocument.head_skip (h : IsDocument json t) :
    ∀ c ∈ (skip t).head?, c ≠ '[' ∧ c ≠ '\x7b' := by
  cases h with
  | mk ha htoken _ =>
    rw [List.append_assoc, skip_append ha fun c hc => (htoken.head_append _ c hc).1]
    exact fun c hc => (htoken.head_append _ c hc).2

theorem NumberParts.Written.read? {p : NumberParts} (h : p.Written t) (ha : IsSpaces a)
    (hb : IsSpaces b) : Json.read? (a ++ t ++ b) = p.value? := by
  rw [List.append_assoc, read?_append ha (h.head_append _), scalar?_of_written h,
    h.number?_append hb.endsNumber]
  cases p.value? <;> simp [hb.skip_eq_nil]

/-- A body is read as a string if it is closed and only space comes after. -/
theorem StringBody.read? {body s : Text} (h : StringBody body s) (ha : IsSpaces a) (rest : Text) :
    Json.read? (a ++ '"' :: (body ++ rest)) = (stringBody? rest).bind fun p =>
      if skip p.2 = [] then some (.text (s ++ p.1)) else none := by
  rw [read?_append ha (by simp [isSpace]), scalar?, h.stringBody?_append]
  cases stringBody? rest <;> rfl

/-- What is read as a value that holds no other is a document of it. -/
theorem isDocument_of_read? (h : Json.read? t = some json) (hjson : json = .null ∨ json.IsScalar) :
    IsDocument json t := by
  unfold Json.read? at h
  split at h
  · next v rest hv =>
    obtain ⟨hrest, h⟩ := Option.ite_none_right_eq_some.mp h
    cases h
    obtain ⟨token, htoken, hsplit⟩ := exists_token_of_scalar? (scalar?_of_value? hv hjson)
    obtain ⟨a, ha, ht⟩ := exists_spaces_append_skip t
    rw [ht, hsplit, ← List.append_assoc]
    exact .mk ha htoken (List.dropWhile_eq_nil_iff.mp hrest)
  · contradiction

theorem read?_eq_some_iff (hjson : json = .null ∨ json.IsScalar) :
    Json.read? t = some json ↔ IsDocument json t :=
  ⟨fun h => isDocument_of_read? h hjson, IsDocument.read?⟩

end Documents
end ParameterTemplates.Json
