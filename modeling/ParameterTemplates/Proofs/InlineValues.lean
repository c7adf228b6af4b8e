import ParameterTemplates.Proofs.CheckedRuns
import ParameterTemplates.Proofs.ScalarDocuments
import ParameterTemplates.Proofs.Spelling

/-! Values on the command line. A text that is a whole JSON document of a string, a number or a
truth value is that value, and every other text is a string as it stands. So a string or a truth
value passes through the command line unchanged if it is given as its JSON text. -/
namespace ParameterTemplates.Command
open Template Text Json

/-- Whether a text that is given as a value is taken as it stands. -/
def IsRaw (t : Text) : Prop := inlineValue t = .string t

section Values

variable {t a b token body s rest : Text} {json : Json} {v : Scalar}

theorem inlineValue_of_document (h : IsDocument json t) (hv : Scalar.ofJson json = .ok v) :
    inlineValue t = v := by
  simp only [inlineValue, h.read?, Option.map_some, hv]

/-- What is not read as a scalar stays as it is. -/
theorem isRaw_of_read? (h : ∀ json, Json.read? t = some json → ¬ json.IsScalar) : IsRaw t := by
  unfold IsRaw inlineValue
  cases hread : Json.read? t with
  | none => rfl
  | some json =>
    cases hv : Scalar.ofJson json with
    | error fault => simp [hv]
    | ok v => exact absurd (exists_ofJson_iff.mp ⟨v, hv⟩) (h json hread)

theorem isRaw_of_no_document (h : ∀ json, IsDocument json t → ¬ json.IsScalar) : IsRaw t :=
  isRaw_of_read? fun json hread hjson =>
    h json ((Json.read?_eq_some_iff (.inr hjson)).mp hread) hjson

theorem isRaw_of_read?_eq_none (h : Json.read? t = none) : IsRaw t :=
  isRaw_of_read? fun json hread => by simp [h] at hread

/-- Strings and truth values are read back from their JSON texts. -/
theorem inlineValue_toJsonText (h : v.type ≠ .number) : inlineValue v.toJsonText = v := by
  cases v with
  | string s => exact inlineValue_of_document (isToken_writeText s).isDocument rfl
  | number x => exact absurd rfl h
  | boolean b => exact inlineValue_of_document (IsToken.boolean b).isDocument rfl

theorem isRaw_null (ha : IsSpaces a) (hb : IsSpaces b) : IsRaw (a ++ "null".toList ++ b) := by
  refine isRaw_of_read? fun json hread hjson => ?_
  rw [(IsDocument.mk ha .null hb).read?] at hread
  cases hread
  cases hjson

/-- What begins like an array or an object is no document of a scalar, whether it is closed or
not. -/
theorem isRaw_nested {c : Char} (hc : c = '[' ∨ c = '\x7b') (ha : IsSpaces a) (t : Text) :
    IsRaw (a ++ c :: t) := by
  have hspace : ∀ d ∈ (c :: t).head?, isSpace d = false := by
    rcases hc with rfl | rfl <;> simp [isSpace]
  refine isRaw_of_no_document fun json hdocument _ => ?_
  have hhead := hdocument.head_skip
  rw [skip_append ha hspace] at hhead
  rcases hc with rfl | rfl
  · exact (hhead _ rfl).1 rfl
  · exact (hhead _ rfl).2 rfl

theorem isRaw_of_out_of_range {p : NumberParts} (hp : p.Written token) (hvalue : p.value? = none)
    (ha : IsSpaces a) (hb : IsSpaces b) : IsRaw (a ++ token ++ b) := by
  apply isRaw_of_read?_eq_none
  rw [hp.read? ha hb, hvalue]

/-- A string has to be closed. -/
theorem isRaw_unclosed (h : StringBody body s) (ha : IsSpaces a) : IsRaw (a ++ '"' :: body) := by
  apply isRaw_of_read?_eq_none
  have hread := h.read? ha []
  rwa [List.append_nil] at hread

/-- A quote that is not escaped closes a string, and nothing but space may follow. -/
theorem isRaw_closed_early (h : StringBody body s) (ha : IsSpaces a) (hrest : ¬ IsSpaces rest) :
    IsRaw (a ++ '"' :: (body ++ '"' :: rest)) := by
  apply isRaw_of_read?_eq_none
  have hskip : skip rest ≠ [] := fun hnil => hrest (List.dropWhile_eq_nil_iff.mp hnil)
  simp [h.read? ha, stringBody?, hskip]

end Values

section Arguments

variable {verb : Verb} {g g' : Given} {arg v : Text} {args : List Text} {switch : Switch}

theorem isPlain_of_head (h : ∀ c ∈ arg.head?, c ≠ '-') : isPlain arg = true := by
  unfold isPlain
  split
  · rfl
  · exact absurd rfl (h '-' rfl)
  · rfl

theorem readArguments_plain (hplain : isPlain arg = true) (h : g.positional arg = .ok g') :
    readArguments verb g (arg :: args) = readArguments verb g' args := by
  have hdash : arg ≠ ['-', '-'] := by
    rintro rfl
    contradiction
  rw [readArguments, if_neg hdash, if_pos hplain, h]

theorem readArguments_valued (hplain : isPlain arg = false) (hdash : arg ≠ ['-', '-'])
    (hwaits : readSwitch (some verb) g arg = .ok (.waits g switch)) (hv : isPlain v = true)
    (h : g.value v switch = .ok g') :
    readArguments verb g (arg :: v :: args) = readArguments verb g' args := by
  simp only [readArguments, if_neg hdash, hplain, hwaits, hv, h, Bool.false_eq_true, if_false,
    if_true]

theorem readArguments_done (hplain : isPlain arg = false) (hdash : arg ≠ ['-', '-'])
    (hdone : readSwitch (some verb) g arg = .ok (.done g')) :
    readArguments verb g (arg :: args) = readArguments verb g' args := by
  simp only [readArguments, if_neg hdash, hplain, hdone, Bool.false_eq_true, if_false]

theorem isPlain_setting {n : Text} (h : IsName n) (t : Text) : isPlain (setting (n, t)) = true := by
  apply isPlain_of_head
  obtain ⟨c, n, rfl⟩ := List.exists_cons_of_ne_nil h.ne_nil
  rintro d hd rfl
  obtain rfl : c = '-' := by simpa [setting] using hd
  exact absurd h.1 (by decide)

theorem isPlain_of_ofName? {w : Text} {type : ValueType} (h : ValueType.ofName? w = some type) :
    isPlain w = true := by
  apply isPlain_of_head
  rintro c hc rfl
  rw [List.eq_cons_of_mem_head? hc] at h
  simp [ValueType.ofName?] at h

/-- The arguments that ask for one parameter as a type and set it to a text. -/
def settingArguments (n t w : Text) (json : Bool) : List Text :=
  [openMark ++ [' '] ++ referTo n ++ [' '] ++ closeMark, "--set".toList, setting (n, t),
    "--type".toList, w] ++ if json then ["--json".toList] else []

theorem readArguments_settingArguments {n w : Text} {type : ValueType} (hn : IsName n)
    (hw : ValueType.ofName? w = some type) (t : Text) (json : Bool) :
    readArguments .resolve .nothing (settingArguments n t w json) =
      .ok ⟨false, json, none, [setting (n, t)], some type,
        some (openMark ++ [' '] ++ referTo n ++ [' '] ++ closeMark)⟩ := by
  have hexpression : isPlain (openMark ++ [' '] ++ referTo n ++ [' '] ++ closeMark) = true :=
    isPlain_of_head (by simp [openMark])
  have htype (g : Given) (hg : g.wanted = none) :
      g.value w .type = .ok { g with wanted := some type } := by
    simp only [Given.value, hg, hw]
  rw [settingArguments, List.cons_append, readArguments_plain hexpression rfl, List.cons_append,
    List.cons_append, readArguments_valued rfl (by decide) rfl (isPlain_setting hn t) rfl,
    List.cons_append, List.cons_append, readArguments_valued rfl (by decide) rfl
      (isPlain_of_ofName? hw) (htype _ rfl)]
  cases json with
  | false => rfl
  | true => exact readArguments_done rfl (by decide) rfl

theorem ofArguments_settingArguments {n w : Text} {type : ValueType} (hn : IsName n)
    (hw : ValueType.ofName? w = some type) (t : Text) (json : Bool) :
    Invocation.ofArguments ("resolve".toList :: settingArguments n t w json) =
      .run false (.resolve (openMark ++ [' '] ++ referTo n ++ [' '] ++ closeMark)
        ⟨none, [setting (n, t)]⟩ type json) := by
  have hverb : Verb.ofName? "resolve".toList = some .resolve := by decide
  simp only [Invocation.ofArguments, readBefore, hverb, finish,
    readArguments_settingArguments hn hw]
  rfl

end Arguments

section Runs

variable {files : Text → Except FileFault Text} {n : Text} {v : Scalar}

/-- A parameter that is set to a value resolves to it. -/
theorem perform_resolve_setting (hn : IsName n) {t : Text} (ht : inlineValue t = v) (json : Bool) :
    (perform files (.resolve (openMark ++ [' '] ++ referTo n ++ [' '] ++ closeMark)
      ⟨none, [setting (n, t)]⟩ v.type json)).result =
        .ok ((if json then v.toJsonText else v.display) ++ ['\n']) := by
  have hload : load files ⟨none, [setting (n, t)]⟩ = .ok (.set .empty n v) := by
    have hassign := assignment_of_assigns (assigns_setting hn t)
    rw [ht] at hassign
    exact setEach_cons_of_ok hassign
  have hfind : (Bindings.empty.set n v).table n = some (.ofScalar v) := by
    simp [Bindings.table, Bindings.find?_set]
  have hvalue : (resolve (Bindings.empty.set n v).table v.type
      (Shape.identity n).text).outcome = .ok v := by
    rw [resolve_text_outcome (s := .identity n) hn]
    refine Table.value_eq_ok_iff.mpr ⟨_, hfind, ?_, Parameter.access_ofScalar v⟩
    simp [Parameter.isLegal_ofScalar]
  rw [perform_resolve_of_ok hload]
  change (runResolve _ (Shape.identity n).text _ _).result = _
  simp only [runResolve, hvalue, line]

/-- A string or a truth value that is given as its JSON text is printed as that text, or as it is
displayed. -/
theorem answer_settingArguments {w : Text} (hn : IsName n) (hv : v.type ≠ .number)
    (hw : ValueType.ofName? w = some v.type) (json : Bool) :
    answer files ("resolve".toList :: settingArguments n v.toJsonText w json) =
      ⟨0, (if json then v.toJsonText else v.display) ++ ['\n'], []⟩ := by
  simp only [answer, ofArguments_settingArguments hn hw, Outcome.answer,
    perform_resolve_setting hn (inlineValue_toJsonText hv)]
  rfl

end Runs

/-- Strings and truth values pass through the command line. Their JSON texts, in which nothing but
quotes, backslashes and control characters is escaped, are read back as the values they were written
from, and a run that sets a parameter so prints the text again, or the value as it is displayed: a
string as it stands, and a truth value by its name. A text that is a document of a string, a number
or a truth value is that value. Every other text stays as it is, null and what begins like an array
or an object among them, numbers out of range, and strings that are not closed or closed too
early. -/
theorem inline_values_pass_through :
    (∀ c, Json.escape c = [c] ↔ c ≠ '"' ∧ c ≠ '\\' ∧ 32 ≤ c.toNat) ∧
    (∀ s, (Scalar.string s).toJsonText = '"' :: (s.flatMap Json.escape ++ ['"']) ∧
      (Scalar.string s).display = s) ∧
    (∀ b, (Scalar.boolean b).toJsonText = (if b then "true".toList else "false".toList) ∧
      (Scalar.boolean b).display = if b then "true".toList else "false".toList) ∧
    (∀ s, inlineValue (Scalar.string s).toJsonText = .string s) ∧
    (∀ b, inlineValue (Scalar.boolean b).toJsonText = .boolean b) ∧
    (∀ files n (v : Scalar) w json, IsName n → v.type ≠ .number →
      ValueType.ofName? w = some v.type →
      answer files ("resolve".toList :: settingArguments n v.toJsonText w json) =
        ⟨0, (if json then v.toJsonText else v.display) ++ ['\n'], []⟩) ∧
    (∀ t json v, IsDocument json t → Scalar.ofJson json = .ok v → inlineValue t = v) ∧
    (∀ t, (∀ json, IsDocument json t → ¬ json.IsScalar) → IsRaw t) ∧
    ∀ a b, IsSpaces a → IsSpaces b →
      IsRaw (a ++ "null".toList ++ b) ∧
      (∀ t, IsRaw (a ++ '[' :: t) ∧ IsRaw (a ++ '\x7b' :: t)) ∧
      (∀ (p : NumberParts) token, p.Written token → p.value? = none → IsRaw (a ++ token ++ b)) ∧
      ∀ body s, StringBody body s → IsRaw (a ++ '"' :: body) ∧
        ∀ rest, ¬ IsSpaces rest → IsRaw (a ++ '"' :: (body ++ '"' :: rest)) := by
  refine ⟨fun c => escape_eq_singleton_iff, fun s => ⟨rfl, rfl⟩, fun b => ⟨rfl, rfl⟩, ?_, ?_, ?_,
    ?_, ?_, ?_⟩
  · intro s
    exact inlineValue_toJsonText (by simp [Scalar.type])
  · intro b
    exact inlineValue_toJsonText (by simp [Scalar.type])
  · intro files n v w json hn hv hw
    exact answer_settingArguments hn hv hw json
  · intro t json v hdocument hv
    exact inlineValue_of_document hdocument hv
  · intro t h
    exact isRaw_of_no_document h
  · intro a b ha hb
    refine ⟨isRaw_null ha hb, ?_, ?_, ?_⟩
    · intro t
      exact ⟨isRaw_nested (.inl rfl) ha t, isRaw_nested (.inr rfl) ha t⟩
    · intro p token hp hvalue
      exact isRaw_of_out_of_range hp hvalue ha hb
    · intro body s hbody
      exact ⟨isRaw_unclosed hbody ha, fun rest hrest => isRaw_closed_early hbody ha hrest⟩

/-- A string with a quote, a backslash, control characters and a character beyond the basic plane,
under a name with a hyphen; and a number that is too large, an unclosed string whose last quote is
escaped, and an array between spaces. -/
theorem inline_values_pass_through_escapes :
    let s : Text := ['a', '"', '\\', '\x01', '\n', '\u007f', '😀']
    let t : Text := ['"', 'a', '\\', '"', '\\', '\\', '\\', 'u', '0', '0', '0', '1', '\\', 'n',
      '\u007f', '😀', '"']
    let files : Text → Except FileFault Text := fun _ => .error .notFound
    inlineValue t = .string s ∧
      answer files ["resolve".toList, "{{ params.x-1 }}".toList, "--set".toList,
        "x-1=".toList ++ t, "--type".toList, "Str".toList, "--json".toList] =
          ⟨0, t ++ ['\n'], []⟩ ∧
      answer files ["resolve".toList, "{{ params.x-1 }}".toList, "--set".toList,
        "x-1=".toList ++ t, "--type".toList, "Str".toList] = ⟨0, s ++ ['\n'], []⟩ ∧
      IsRaw " 1e400".toList ∧ IsRaw ['"', 'a', '\\', '"'] ∧ IsRaw " [1] ".toList := by
  intro s t files
  obtain ⟨-, -, -, hstring, -, hrun, -, -, hraw⟩ := inline_values_pass_through
  have ht : (Scalar.string s).toJsonText = t := by decide
  have hname : IsName "x-1".toList := by decide
  have htype : ValueType.ofName? "Str".toList = some (Scalar.string s).type := by decide
  have hne : (Scalar.string s).type ≠ .number := by decide
  have hspace : IsSpaces [' '] := by simp [IsSpaces, isSpace]
  have hexponent : Numeral.IsExponent (some (Numeral.signed false ['4', '0', '0']))
      ['e', '4', '0', '0'] := .mark (.inl rfl) .none (by simp [Numeral.IsDigits]) (by simp)
  have hnumber : NumberParts.Written ⟨false, ['1'], [], some 400⟩ ['1', 'e', '4', '0', '0'] :=
    .mk .none ⟨by simp [Numeral.IsDigits], by simp, by simp⟩ .none hexponent
  have hbody : StringBody ['a', '\\', '"'] ['a', '"'] :=
    .plain (by decide) (by decide) (by decide) (.letter rfl .nil)
  obtain ⟨-, -, hrange, -⟩ := hraw [' '] [] hspace isSpaces_nil
  obtain ⟨-, -, -, hquote⟩ := hraw [] [] isSpaces_nil isSpaces_nil
  obtain ⟨-, harray, -, -⟩ := hraw [' '] [' '] hspace hspace
  refine ⟨?_, ?_, ?_, hrange _ _ hnumber rfl, (hquote _ _ hbody).1, (harray _).1⟩
  · rw [← ht]
    exact hstring s
  · have hanswer := hrun files _ _ _ true hname hne htype
    rw [ht] at hanswer
    exact hanswer
  · have hanswer := hrun files _ _ _ false hname hne htype
    rw [ht] at hanswer
    exact hanswer

end ParameterTemplates.Command
