import Mathlib.Data.Char
import Mathlib.Data.List.Lex
import ParameterTemplates.Proofs.CheckedRuns
import ParameterTemplates.Proofs.ScalarDocuments

/-! Parameters of a file and assignments that override them. The entries of the file are a loop like
the assignments are, but their names ascend, so that no entry overrides another. -/
namespace ParameterTemplates
open Template Text

namespace Json

/-- The keys of entries ascend, so that each of them stands once. -/
def Ascending (entries : List (Text × Json)) : Prop := entries.Pairwise fun p q => p.1 < q.1

theorem fst_insertEntry {key : Text} {value : Json} {entries : List (Text × Json)}
    {p : Text × Json} (h : p ∈ insertEntry key value entries) :
    p.1 = key ∨ p ∈ entries := by
  induction entries with
  | nil => simp_all [insertEntry]
  | cons e entries ih =>
    obtain ⟨k, u⟩ := e
    simp only [insertEntry] at h
    split at h
    · rcases List.mem_cons.mp h with rfl | h
      · exact .inl rfl
      · exact .inr (List.mem_cons_of_mem _ h)
    · split at h
      · rcases List.mem_cons.mp h with rfl | h
        · exact .inl rfl
        · exact .inr h
      · rcases List.mem_cons.mp h with rfl | h
        · exact .inr List.mem_cons_self
        · exact (ih h).imp_right (List.mem_cons_of_mem _)

theorem Ascending.insertEntry {entries : List (Text × Json)} (h : Ascending entries) (key : Text)
    (value : Json) : Ascending (Json.insertEntry key value entries) := by
  induction entries with
  | nil => exact List.pairwise_singleton _ _
  | cons e entries ih =>
    obtain ⟨k, u⟩ := e
    obtain ⟨hhead, htail⟩ := List.pairwise_cons.mp h
    simp only [Json.insertEntry]
    split
    · next heq =>
      subst heq
      exact List.pairwise_cons.mpr ⟨hhead, htail⟩
    · next hne =>
      split
      · next hlt =>
        refine List.pairwise_cons.mpr ⟨fun p hp => ?_, h⟩
        rcases List.mem_cons.mp hp with rfl | hp
        · exact hlt
        · exact List.lt_trans hlt (hhead p hp)
      · next hle =>
        refine List.pairwise_cons.mpr ⟨fun p hp => ?_, ih htail⟩
        rcases fst_insertEntry hp with heq | hp
        · rw [heq]
          exact ((lt_trichotomy key k).resolve_left hle).resolve_left hne
        · exact hhead p hp

theorem ascending_foldl_insertEntry (entries : List (Text × Json)) {es : List (Text × Json)}
    (h : Ascending es) :
    Ascending (entries.foldl (fun es p => Json.insertEntry p.1 p.2 es) es) := by
  induction entries generalizing es with
  | nil => exact h
  | cons p entries ih => exact ih (h.insertEntry p.1 p.2)

theorem exists_ascending_collect (entries : List (Text × Json)) :
    ∃ es, collect entries = .object es ∧ Ascending es :=
  ⟨_, rfl, ascending_foldl_insertEntry entries List.Pairwise.nil⟩

/-- An object of a document has its entries collected, wherever it is nested. -/
theorem ascending_of_value? {depth : Nat} {t rest : Text} {entries : List (Text × Json)}
    (h : value? depth t = some (.object entries, rest)) : Ascending entries := by
  have hscalar : ∀ u : Text, scalar? u ≠ some (.object entries, rest) := by
    intro u hu
    obtain ⟨token, htoken, -⟩ := exists_token_of_scalar? hu
    rcases htoken.eq_null_or_isScalar with h | h <;> cases h
  unfold value? at h
  split at h
  · exact absurd h (hscalar _)
  · split at h
    · simp at h
    · obtain ⟨p, -, h⟩ := Option.map_eq_some_iff.mp h
      simp at h
  · split at h
    · cases h
      exact List.Pairwise.nil
    · obtain ⟨⟨es, r⟩, -, h⟩ := Option.map_eq_some_iff.mp h
      obtain ⟨sorted, hsorted, hascending⟩ := exists_ascending_collect es
      obtain ⟨hcollect, -⟩ := Prod.mk.inj h
      rwa [← Json.object.inj (hsorted.symm.trans hcollect)]
  · exact absurd h (hscalar _)

theorem ascending_of_read? {t : Text} {entries : List (Text × Json)}
    (h : read? t = some (.object entries)) : Ascending entries := by
  unfold read? at h
  split at h
  · next v rest hv =>
    obtain ⟨-, h⟩ := Option.ite_none_right_eq_some.mp h
    cases h
    exact ascending_of_value? hv
  · contradiction

theorem Ascending.givesLast_iff {α : Type} {entries : List (Text × Json)} (h : Ascending entries)
    {gives : Text × Json → Text → α → Prop} (hname : ∀ {p n v}, gives p n v → p.1 = n) {n : Text}
    {v : α} : GivesLast gives entries n v ↔ ∃ p ∈ entries, gives p n v := by
  constructor
  · rintro ⟨before, p, after, rfl, hp, -⟩
    exact ⟨p, by simp, hp⟩
  · rintro ⟨p, hp, hgives⟩
    obtain ⟨before, after, rfl⟩ := List.append_of_mem hp
    refine ⟨before, p, after, rfl, hgives, fun q hq w hw => ?_⟩
    -- two entries of one name do not ascend
    have hlt := (List.pairwise_cons.mp (List.pairwise_append.mp h).2.1).1 q hq
    rw [hname hgives, hname hw] at hlt
    exact List.lt_irrefl _ hlt

end Json

namespace Command

section Entries

/-- The parameter of an entry of a file. -/
def entryValue (path : Text) (p : Text × Json) : Except LoadError (Text × Scalar) :=
  match Scalar.ofJson p.2 with
  | .ok v => .ok (p.1, v)
  | .error fault => .error (.unsupported p.1 path fault)

theorem entryValue_eq_ok_iff {path : Text} {p : Text × Json} {n : Text} {v : Scalar} :
    entryValue path p = .ok (n, v) ↔ p.1 = n ∧ Scalar.ofJson p.2 = .ok v := by
  unfold entryValue
  cases Scalar.ofJson p.2 <;> simp

theorem exists_entryValue_iff {path : Text} {p : Text × Json} :
    (∃ n v, entryValue path p = .ok (n, v)) ↔ p.2.IsScalar := by
  simp [entryValue_eq_ok_iff, Json.exists_ofJson_iff]

theorem entryValue_eq_error_iff {path : Text} {p : Text × Json} {e : LoadError} :
    entryValue path p = .error e ↔ ¬ p.2.IsScalar ∧ e = .unsupported p.1 path ⟨p.2⟩ := by
  rw [← Json.exists_ofJson_iff]
  unfold entryValue
  cases h : Scalar.ofJson p.2 with
  | ok v => simp
  | error fault =>
    obtain ⟨-, rfl⟩ := Json.ofJson_eq_error_iff.mp h
    simp [eq_comm]

theorem fromEntries_eq_setEach (path : Text) (entries : List (Text × Json)) :
    fromEntries path entries = setEach (entryValue path) .empty entries := by
  unfold fromEntries setEach
  congr 1
  funext b ⟨name, json⟩
  dsimp only [entryValue]
  cases Scalar.ofJson json <;> rfl

theorem exists_fromEntries_iff {path : Text} {entries : List (Text × Json)} :
    (∃ b, fromEntries path entries = .ok b) ↔ ∀ p ∈ entries, p.2.IsScalar := by
  simp only [fromEntries_eq_setEach, exists_setEach_iff, exists_entryValue_iff]

theorem fromEntries_eq_error_iff {path : Text} {entries : List (Text × Json)} {e : LoadError} :
    fromEntries path entries = .error e ↔ ∃ before p after, entries = before ++ p :: after ∧
      (∀ q ∈ before, q.2.IsScalar) ∧ ¬ p.2.IsScalar ∧ e = .unsupported p.1 path ⟨p.2⟩ := by
  simp only [fromEntries_eq_setEach, setEach_eq_error_iff, exists_entryValue_iff,
    entryValue_eq_error_iff]

/-- Of entries with ascending keys each sets its own name. -/
theorem find?_fromEntries {path : Text} {entries : List (Text × Json)} {b : Bindings Scalar}
    (h : fromEntries path entries = .ok b) (ha : Json.Ascending entries) {n : Text} {v : Scalar} :
    b.find? n = some v ↔ ∃ json, (n, json) ∈ entries ∧ Scalar.ofJson json = .ok v := by
  rw [fromEntries_eq_setEach] at h
  rw [find?_setEach h, ha.givesLast_iff fun hp => (entryValue_eq_ok_iff.mp hp).1]
  simp [entryValue_eq_ok_iff, and_left_comm, Bindings.find?, Bindings.empty]

theorem mem_names_fromEntries {path : Text} {entries : List (Text × Json)} {b : Bindings Scalar}
    (h : fromEntries path entries = .ok b) {n : Text} :
    n ∈ b.names ↔ ∃ json, (n, json) ∈ entries := by
  have hscalar := exists_fromEntries_iff.mp ⟨b, h⟩
  rw [fromEntries_eq_setEach] at h
  rw [mem_names_setEach h]
  constructor
  · rintro (hempty | ⟨⟨name, json⟩, hp, v, hv⟩)
    · exact absurd hempty List.not_mem_nil
    · obtain ⟨rfl, -⟩ := entryValue_eq_ok_iff.mp hv
      exact ⟨json, hp⟩
  · rintro ⟨json, hp⟩
    obtain ⟨v, hv⟩ := Json.exists_ofJson_iff.mpr (hscalar _ hp)
    exact .inr ⟨_, hp, v, entryValue_eq_ok_iff.mpr ⟨rfl, hv⟩⟩

end Entries

section Loading

variable {files : Text → Except FileFault Text} {s : Sources} {entries : List (Text × Json)}
  {n : Text} {v : Scalar}

/-- The entries of the file of parameters; without a file there are none. -/
inductive Supplies (files : Text → Except FileFault Text) :
    Option Text → List (Text × Json) → Prop where
  | none : Supplies files none []
  | file {path content : Text} {entries : List (Text × Json)} : files path = .ok content →
      Json.read? content = some (.object entries) → Supplies files (some path) entries

/-- What stops the loading of parameters: the first entry that is no scalar, and only if there is
none the first assignment that is malformed. -/
inductive LoadFault (entries : List (Text × Json)) (s : Sources) : LoadError → Prop where
  | entry {path : Text} {before after : List (Text × Json)} {name : Text} {json : Json} :
      s.file = some path → entries = before ++ (name, json) :: after →
      (∀ p ∈ before, p.2.IsScalar) → ¬ json.IsScalar →
      LoadFault entries s (.unsupported name path ⟨json⟩)
  | assignment {before after : List Text} {t : Text} {e : LoadError} :
      (∀ p ∈ entries, p.2.IsScalar) → s.assignments = before ++ t :: after →
      (∀ u ∈ before, ∃ n v, Assigns u n v) → AssignmentFault t e → LoadFault entries s e

theorem Supplies.ascending {file : Option Text} (h : Supplies files file entries) :
    Json.Ascending entries := by
  cases h with
  | none => exact List.Pairwise.nil
  | file _ hread => exact Json.ascending_of_read? hread

theorem Supplies.exists_path {file : Option Text} (h : Supplies files file entries)
    {p : Text × Json} (hp : p ∈ entries) : ∃ path, file = some path := by
  cases h with
  | none => exact absurd hp List.not_mem_nil
  | file => exact ⟨_, rfl⟩

/-- The entries of the file are set first, and the assignments over them. -/
theorem Supplies.load_eq (h : Supplies files s.file entries) : load files s =
    fromEntries (s.file.getD []) entries >>= fun b => assign b s.assignments := by
  have hfile : fromFile files s.file = fromEntries (s.file.getD []) entries := by
    generalize s.file = file at h
    cases h with
    | none => rfl
    | file hcontent hread =>
      simp only [fromFile, fromContent, hcontent, hread, Option.getD_some]
  rw [load, hfile]

theorem Supplies.load_eq_ok_iff (h : Supplies files s.file entries) {b : Bindings Scalar} :
    load files s = .ok b ↔ ∃ b', fromEntries (s.file.getD []) entries = .ok b' ∧
      assign b' s.assignments = .ok b := by
  rw [h.load_eq]
  cases fromEntries (s.file.getD []) entries <;> simp [bind, Except.bind]

theorem Supplies.exists_load_iff (h : Supplies files s.file entries) :
    (∃ b, load files s = .ok b) ↔
      (∀ p ∈ entries, p.2.IsScalar) ∧ ∀ t ∈ s.assignments, ∃ n v, Assigns t n v := by
  constructor
  · rintro ⟨b, hb⟩
    obtain ⟨b', hb', hload⟩ := h.load_eq_ok_iff.mp hb
    exact ⟨exists_fromEntries_iff.mp ⟨b', hb'⟩, exists_assign_iff.mp ⟨b, hload⟩⟩
  · rintro ⟨hentries, hassignments⟩
    obtain ⟨b', hb'⟩ := exists_fromEntries_iff.mpr hentries
    obtain ⟨b, hb⟩ := exists_assign_iff.mpr hassignments
    exact ⟨b, h.load_eq_ok_iff.mpr ⟨b', hb', hb⟩⟩

/-- An assignment goes before the entry of its name, and of several assignments the last one. -/
theorem Supplies.find?_load (h : Supplies files s.file entries) {b : Bindings Scalar}
    (hb : load files s = .ok b) : b.find? n = some v ↔ GivesLast Assigns s.assignments n v ∨
      Silent Assigns s.assignments n ∧
        ∃ json, (n, json) ∈ entries ∧ Scalar.ofJson json = .ok v := by
  obtain ⟨b', hb', hload⟩ := h.load_eq_ok_iff.mp hb
  rw [find?_assign hload, find?_fromEntries hb' h.ascending]

theorem Supplies.mem_names_load (h : Supplies files s.file entries) {b : Bindings Scalar}
    (hb : load files s = .ok b) : n ∈ b.names ↔
      (∃ json, (n, json) ∈ entries) ∨ ∃ t ∈ s.assignments, ∃ v, Assigns t n v := by
  obtain ⟨b', hb', hload⟩ := h.load_eq_ok_iff.mp hb
  rw [mem_names_assign hload, mem_names_fromEntries hb']

theorem Supplies.load_eq_error_iff (h : Supplies files s.file entries) {e : LoadError} :
    load files s = .error e ↔ LoadFault entries s e := by
  rw [h.load_eq]
  constructor
  · intro he
    cases hb : fromEntries (s.file.getD []) entries with
    | error e' =>
      rw [hb] at he
      obtain rfl := Except.error.inj he
      obtain ⟨before, p, after, hsplit, hbefore, hp, rfl⟩ := fromEntries_eq_error_iff.mp hb
      obtain ⟨path, hpath⟩ := h.exists_path (p := p) (by simp [hsplit])
      rw [hpath]
      exact .entry hpath hsplit hbefore hp
    | ok b =>
      rw [hb] at he
      obtain ⟨before, t, after, hsplit, hbefore, hfault⟩ := assign_eq_error_iff.mp he
      exact .assignment (exists_fromEntries_iff.mp ⟨b, hb⟩) hsplit hbefore hfault
  · intro hfault
    cases hfault with
    | @entry path before after name json hpath hsplit hbefore hjson =>
      have he : fromEntries path entries = .error (.unsupported name path ⟨json⟩) :=
        fromEntries_eq_error_iff.mpr ⟨before, (name, json), after, hsplit, hbefore, hjson, rfl⟩
      rw [hpath, Option.getD_some, he]
      rfl
    | assignment hentries hsplit hbefore hfault =>
      obtain ⟨b, hb⟩ := exists_fromEntries_iff.mpr hentries
      rw [hb]
      exact assign_eq_error_iff.mpr ⟨_, _, _, hsplit, hbefore, hfault⟩

end Loading

section Notes

variable {files : Text → Except FileFault Text} {s : Sources} {b : Bindings Scalar}

theorem size_eq_length_names (b : Bindings Scalar) : b.size = b.names.length :=
  (List.length_map _).symm

/-- A diagnostic that has neither control characters nor line ends is written as it is. -/
theorem note_of_all (origin : Origin) {message : Text}
    (h : (message.all fun c => Text.isPlain c && c != '\n') = true) :
    note origin message =
      "[DEBUG ".toList ++ origin.name ++ [']', ' '] ++ message ++ ['\n'] := by
  have hmessage : ∀ c ∈ message, Text.isPlain c = true ∧ c ≠ '\n' := by
    simpa only [List.all_eq_true, Bool.and_eq_true, bne_iff_ne] using h
  have hindent : (message.flatMap fun c => if c = '\n' then "\n    ".toList else [c]) =
      message := by
    rw [List.flatMap_congr fun c hc => if_neg (hmessage c hc).2]
    exact List.flatMap_singleton' message
  have hname : origin.name.all Text.isPlain = true := by
    cases origin <;> rfl
  have hplain : (message.all Text.isPlain) = true :=
    List.all_eq_true.mpr fun c hc => (hmessage c hc).1
  have hline : ("[DEBUG ".toList ++ origin.name ++ [']', ' '] ++ message ++ ['\n']).all
      Text.isPlain = true := by
    simp only [List.all_append, hname, hplain]
    rfl
  rw [note, hindent, line]
  exact Text.plain_of_forall (List.all_eq_true.mp hline)

theorem loadedNote_eq (b : Bindings Scalar) : loadedNote b =
    "[DEBUG paramexpr] loaded ".toList ++ Nat.toDigits 10 b.names.length ++
      " parameters\n".toList := by
  have hdigits : ((Nat.toDigits 10 b.size).all fun c => Text.isPlain c && c != '\n') = true := by
    refine List.all_eq_true.mpr fun c hc => ?_
    have hdigit := Nat.isDigit_of_mem_toDigits (by decide) (by decide) hc
    have hne : c ≠ '\n' := by
      rintro rfl
      exact absurd hdigit (by decide)
    simp only [Text.isPlain_of_isDigit hdigit, bne_iff_ne.mpr hne, Bool.and_self]
  have hmessage : (("loaded ".toList ++ Nat.toDigits 10 b.size ++ " parameters".toList).all
      fun c => Text.isPlain c && c != '\n') = true := by
    simp only [List.all_append, hdigits]
    rfl
  have hfirst : "[DEBUG paramexpr] loaded ".toList =
      "[DEBUG ".toList ++ Origin.command.name ++ [']', ' '] ++ "loaded ".toList := by rfl
  have hlast : " parameters\n".toList = " parameters".toList ++ ['\n'] := by rfl
  rw [loadedNote, NumberFormat.digits, note_of_all _ hmessage, hfirst, hlast,
    size_eq_length_names]
  simp only [List.append_assoc]

theorem exists_diagnostics_eq {o : Outcome} {first : Text} {others : List Text}
    (h : o.notes = first :: others) : ∃ rest, (o.answer true).diagnostics = first ++ rest := by
  unfold Outcome.answer
  cases o.result with
  | ok output => exact ⟨others.flatten, by simp [h]⟩
  | error e => exact ⟨others.flatten ++ line ("✗ ".toList ++ e.message), by simp [h]⟩

theorem notes_runResolve (b : Bindings Scalar) (e : Text) (wanted : ValueType) (json : Bool) :
    (runResolve b e wanted json).notes =
      loadedNote b :: debugNotes (resolve b.table wanted e).records := by
  cases h : (resolve b.table wanted e).outcome <;> simp only [runResolve, h]

theorem notes_runCheck (b : Bindings Scalar) (e : Text) :
    (runCheck b e).notes = [loadedNote b] := by
  simp only [runCheck]
  split
  · rfl
  · split <;> rfl

theorem answer_of_load_error {err : LoadError} (h : load files s = .error err) (e : Text)
    (wanted : ValueType) (json verbose : Bool) :
    (perform files (.resolve e s wanted json)).answer verbose =
        ⟨1, [], "✗ ".toList ++ err.message ++ ['\n']⟩ ∧
      (perform files (.check e s)).answer verbose =
        ⟨1, [], "✗ ".toList ++ err.message ++ ['\n']⟩ := by
  obtain ⟨hcheck, hresolve⟩ := perform_of_load_error h e wanted json
  rw [hresolve, hcheck]
  cases verbose <;> exact ⟨rfl, rfl⟩

end Notes

/-- Loading parameters from the entries of a file and from assignments. The entries ascend by name.
Loading succeeds exactly if every entry is a string, a number or a boolean and every assignment has
an equals sign with more than blanks before it. A name then has the value of its last assignment, or
else of its entry, or else none, and the number that is logged counts the names of both, each once.
Otherwise the first bad entry is reported, or if there is none the first malformed assignment. -/
theorem load_overrides {files : Text → Except FileFault Text} {s : Sources}
    {entries : List (Text × Json)} (h : Supplies files s.file entries) :
    Json.Ascending entries ∧
    ((∃ b, load files s = .ok b) ↔
      (∀ p ∈ entries, p.2.IsScalar) ∧ ∀ t ∈ s.assignments, ∃ n v, Assigns t n v) ∧
    (∀ b, load files s = .ok b →
      (∀ n v, b.find? n = some v ↔ GivesLast Assigns s.assignments n v ∨
        Silent Assigns s.assignments n ∧
          ∃ json, (n, json) ∈ entries ∧ Scalar.ofJson json = .ok v) ∧
      b.names.Nodup ∧
      (∀ n, n ∈ b.names ↔
        (∃ json, (n, json) ∈ entries) ∨ ∃ t ∈ s.assignments, ∃ v, Assigns t n v) ∧
      ∀ e wanted json,
        let loaded := "[DEBUG paramexpr] loaded ".toList ++ Nat.toDigits 10 b.names.length ++
          " parameters\n".toList
        (∃ rest, ((perform files (.resolve e s wanted json)).answer true).diagnostics =
          loaded ++ rest) ∧
        ∃ rest, ((perform files (.check e s)).answer true).diagnostics = loaded ++ rest) ∧
    ∀ err, (load files s = .error err ↔ LoadFault entries s err) ∧
      (LoadFault entries s err → ∀ e wanted json verbose,
        (perform files (.resolve e s wanted json)).answer verbose =
          ⟨1, [], "✗ ".toList ++ err.message ++ ['\n']⟩ ∧
        (perform files (.check e s)).answer verbose =
          ⟨1, [], "✗ ".toList ++ err.message ++ ['\n']⟩) := by
  refine ⟨h.ascending, h.exists_load_iff, fun b hb => ?_, fun err => ⟨h.load_eq_error_iff, ?_⟩⟩
  · refine ⟨fun n v => h.find?_load hb, b.nodup, fun n => h.mem_names_load hb, ?_⟩
    intro e wanted json
    rw [← loadedNote_eq]
    constructor
    · rw [perform_resolve_of_ok hb]
      exact exists_diagnostics_eq (notes_runResolve b e wanted json)
    · rw [perform_check_of_ok hb]
      exact exists_diagnostics_eq (notes_runCheck b e)
  · intro hfault e wanted json verbose
    exact answer_of_load_error (h.load_eq_error_iff.mpr hfault) e wanted json verbose

/-- A key that stands twice, an assignment with blanks around its name and an equals sign in its
value, a name that is assigned twice; and a file with two bad entries beside a malformed
assignment. -/
theorem load_overrides_mixed :
    let good : Text := "\x7b\"b\": 2, \"a\": \"x\", \"b\": true\x7d".toList
    let bad : Text := "\x7b\"z\": null, \"y\": []\x7d".toList
    let files : Text → Except FileFault Text := fun path => .ok (if path = ['g'] then good else bad)
    let s : Sources := ⟨some ['g'], ["c=1".toList, " b\t=k=2".toList, "c= \"q\" ".toList]⟩
    let t : Sources := ⟨some ['b'], ["noequals".toList]⟩
    (∃ b, load files s = .ok b ∧ b.find? ['a'] = some (.string ['x']) ∧
      b.find? ['b'] = some (.string "k=2".toList) ∧ b.find? ['c'] = some (.string ['q']) ∧
      ∃ rest, ((perform files (.check ['e'] s)).answer true).diagnostics =
        "[DEBUG paramexpr] loaded 3 parameters\n".toList ++ rest) ∧
    load files t = .error (.unsupported ['y'] ['b'] ⟨.array []⟩) := by
  intro good bad files s t
  have hread : Json.read? good = some (.object [(['a'], .text ['x']), (['b'], .boolean true)]) := by
    rfl
  have hread' : Json.read? bad = some (.object [(['y'], .array []), (['z'], .null)]) := by rfl
  have hgood : Supplies files s.file [(['a'], .text ['x']), (['b'], .boolean true)] :=
    .file rfl hread
  have hbad : Supplies files t.file [(['y'], .array []), (['z'], .null)] := .file rfl hread'
  obtain ⟨-, -, hok, -⟩ := load_overrides hgood
  obtain ⟨-, -, -, herror⟩ := load_overrides hbad
  have hload : load files s = .ok ⟨[(['a'], .string ['x']), (['b'], .string "k=2".toList),
      (['c'], .string ['q'])], by decide⟩ := by rfl
  obtain ⟨hfind, -, -, hnote⟩ := hok _ hload
  have hb : Assigns " b\t=k=2".toList ['b'] (.string "k=2".toList) :=
    assignment_eq_ok_iff.mp (by rfl)
  have hc : Assigns "c= \"q\" ".toList ['c'] (.string ['q']) :=
    assignment_eq_ok_iff.mp (by rfl)
  have hc' : Assigns "c=1".toList ['c'] (.number (.ofInt 1)) :=
    assignment_eq_ok_iff.mp (by rfl)
  have hother {u m n v w} (h : Assigns u m v) (hne : m ≠ n) : ¬ Assigns u n w :=
    fun hu => hne (h.unique hu).1
  refine ⟨⟨_, hload, ?_, ?_, ?_, (hnote ['e'] .string false).2⟩, ?_⟩
  · refine (hfind _ _).mpr (.inr ⟨?_, _, List.mem_cons_self, rfl⟩)
    simp only [Silent, List.forall_mem_cons, s]
    exact ⟨fun w => hother hc' (by decide), fun w => hother hb (by decide),
      fun w => hother hc (by decide), by simp⟩
  · refine (hfind _ _).mpr (.inl ⟨["c=1".toList], _, ["c= \"q\" ".toList], rfl, hb, ?_⟩)
    simp only [Silent, List.forall_mem_cons]
    exact ⟨fun w => hother hc (by decide), by simp⟩
  · exact (hfind _ _).mpr (.inl ⟨["c=1".toList, " b\t=k=2".toList], _, [], rfl, hc, by simp [Silent]⟩)
  · have hjson : ¬ (Json.array []).IsScalar := fun h => by cases h
    have hfirst : ∀ p ∈ ([] : List (Text × Json)), p.2.IsScalar := by simp
    exact (herror _).1.mpr (.entry rfl rfl hfirst hjson)

end Command
end ParameterTemplates
