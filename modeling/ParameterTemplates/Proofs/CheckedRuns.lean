import ParameterTemplates.Command.Run
import ParameterTemplates.Proofs.Assignments
import ParameterTemplates.Proofs.ReferencedNames

/-! Checking an expression against resolving it on the command line. A check that succeeds leaves no
name that a resolution could lack, and one that fails says which names to set. -/
namespace ParameterTemplates
open Template Text

namespace Template

theorem Written.isName_of_mem_mentions {s : Shape} {e n : Text} (h : Written s e)
    (hn : n ∈ s.mentions) : IsName n := by
  rcases Shape.mem_mentions_iff.mp hn with hn | ⟨holds, branch, -, hr⟩
  · cases h with
    | dualEquality hl hr =>
      rcases List.mem_pair.mp hn with rfl | rfl
      · exact hl
      · exact hr
    | identity h | equality h | ternary h | literalTernary h =>
      obtain rfl := List.mem_singleton.mp hn
      exact h
  · exact isName_of_reference? hr

theorem IsName.equals_not_mem {n : Text} (h : IsName n) : '=' ∉ n := by
  intro hmem
  have hchar := h.isNameChar _ hmem
  revert hchar
  decide

theorem IsName.not_isGap {n : Text} (h : IsName n) : ¬ IsGap n := by
  rw [← trim_eq_nil_iff, h.trim_eq]
  exact h.ne_nil

end Template

theorem Bindings.table_eq_none_iff {b : Bindings Scalar} {n : Text} :
    b.table n = none ↔ b.find? n = none :=
  Option.map_eq_none_iff

namespace Command

variable {files : Text → Except FileFault Text} {s : Sources} {b : Bindings Scalar} {e : Text}

section Assignments

/-- The assignment that sets a name to the value of a text. -/
def setting (p : Text × Text) : Text := p.1 ++ '=' :: p.2

/-- A name is neither cut short nor trimmed, whatever text follows the equals sign. -/
theorem assigns_setting {n : Text} (h : IsName n) (v : Text) :
    Assigns (setting (n, v)) n (inlineValue v) := by
  have hassigns : Assigns (setting (n, v)) (trim n) (inlineValue v) :=
    .mk h.equals_not_mem h.not_isGap
  rwa [h.trim_eq] at hassigns

theorem assigns_setting_iff {p : Text × Text} (h : IsName p.1) {n : Text} :
    (∃ w, Assigns (setting p) n w) ↔ n = p.1 := by
  constructor
  · rintro ⟨w, hw⟩
    exact (hw.unique (assigns_setting h p.2)).1
  · rintro rfl
    exact ⟨_, assigns_setting h p.2⟩

/-- Settings of names are accepted, and add these names to the ones that are there. -/
theorem exists_assign_settings {ps : List (Text × Text)} (h : ∀ p ∈ ps, IsName p.1) :
    ∃ b', assign b (ps.map setting) = .ok b' ∧
      ∀ n, b'.find? n = none ↔ b.find? n = none ∧ ∀ v, (n, v) ∉ ps := by
  obtain ⟨b', hb'⟩ : ∃ b', assign b (ps.map setting) = .ok b' := by
    rw [exists_assign_iff, List.forall_mem_map]
    exact fun p hp => ⟨_, _, assigns_setting (h p hp) p.2⟩
  refine ⟨b', hb', fun n => ?_⟩
  have hassigned : (∃ t ∈ ps.map setting, ∃ w, Assigns t n w) ↔ ∃ v, (n, v) ∈ ps := by
    constructor
    · rintro ⟨t, ht, hw⟩
      obtain ⟨p, hp, rfl⟩ := List.mem_map.mp ht
      obtain rfl := (assigns_setting_iff (h p hp)).mp hw
      exact ⟨p.2, hp⟩
    · rintro ⟨v, hv⟩
      exact ⟨_, List.mem_map_of_mem hv, (assigns_setting_iff (h _ hv)).mpr rfl⟩
  simp only [Bindings.find?_eq_none_iff, mem_names_assign hb', hassigned, not_or, not_exists]

theorem load_append (files : Text → Except FileFault Text) (s : Sources) (more : List Text) :
    load files { s with assignments := s.assignments ++ more } =
      load files s >>= fun b => assign b more := by
  simp only [load, assign, List.foldlM_append, bind_assoc]

end Assignments

section Checks

/-- The names of an expression that a check does not find. -/
def absentNames (b : Bindings Scalar) (shape : Shape) : List Text :=
  shape.parameters.filter fun n => (b.find? n).isNone

variable {shape : Shape}

theorem mem_absentNames_iff {n : Text} :
    n ∈ absentNames b shape ↔ n ∈ shape.mentions ∧ b.find? n = none := by
  simp [absentNames, Shape.mem_parameters_iff]

theorem pairwise_absentNames (b : Bindings Scalar) (shape : Shape) :
    (absentNames b shape).Pairwise fun m n => shape.mentions.idxOf m < shape.mentions.idxOf n :=
  shape.pairwise_parameters.filter _

theorem nodup_absentNames (b : Bindings Scalar) (shape : Shape) : (absentNames b shape).Nodup :=
  (pairwise_absentNames b shape).imp fun h heq => by simp [heq] at h

theorem runCheck_of_absent (h : (classify e).outcome = .ok shape) (hne : absentNames b shape ≠ []) :
    (runCheck b e).result = .error (.missing (absentNames b shape)) := by
  obtain ⟨n, ns, hns⟩ := List.exists_cons_of_ne_nil hne
  have hfilter := hns
  rw [absentNames] at hfilter
  simp only [runCheck, referencedParameters_eq_ok h, hfilter, hns]

theorem runCheck_of_present (h : (classify e).outcome = .ok shape)
    (hnil : absentNames b shape = []) :
    (runCheck b e).result = .ok (supplied b shape.parameters) := by
  rw [absentNames] at hnil
  simp only [runCheck, referencedParameters_eq_ok h, hnil]

theorem runCheck_of_error {err : ResolveError} (h : (classify e).outcome = .error err) :
    (runCheck b e).result = .error (.resolution err) := by
  have href : (referencedParameters e).outcome = .error err :=
    Traced.outcome_bind_eq_error.mpr (.inl h)
  simp only [runCheck, href]

/-- A check succeeds exactly on an expression all of whose names are found. -/
theorem exists_runCheck_ok_iff : (∃ out, (runCheck b e).result = .ok out) ↔
    ∃ shape, (classify e).outcome = .ok shape ∧ ∀ n ∈ shape.mentions, b.find? n ≠ none := by
  constructor
  · rintro ⟨out, hout⟩
    cases h : (classify e).outcome with
    | error err => simp [runCheck_of_error h] at hout
    | ok shape =>
      refine ⟨shape, rfl, fun n hn hnone => ?_⟩
      have hne := List.ne_nil_of_mem (mem_absentNames_iff.mpr ⟨hn, hnone⟩)
      simp [runCheck_of_absent h hne] at hout
  · rintro ⟨shape, h, hpresent⟩
    refine ⟨_, runCheck_of_present h (List.eq_nil_iff_forall_not_mem.mpr fun n hn => ?_)⟩
    obtain ⟨hmention, hnone⟩ := mem_absentNames_iff.mp hn
    exact hpresent n hmention hnone

theorem runCheck_eq_error_iff (h : (classify e).outcome = .ok shape) {err : RunError} :
    (runCheck b e).result = .error err ↔
      (∃ n ∈ shape.mentions, b.find? n = none) ∧ err = .missing (absentNames b shape) := by
  have hmem : (∃ n ∈ shape.mentions, b.find? n = none) ↔ absentNames b shape ≠ [] := by
    simp [List.eq_nil_iff_forall_not_mem, mem_absentNames_iff]
  rw [hmem]
  by_cases hnil : absentNames b shape = []
  · simp [runCheck_of_present h hnil, hnil]
  · simp [runCheck_of_absent h hnil, hnil, eq_comm]

theorem runResolve_eq_error_iff {wanted : ValueType} {json : Bool} {err : RunError} :
    (runResolve b e wanted json).result = .error err ↔
      ∃ cause, (resolve b.table wanted e).outcome = .error cause ∧ err = .resolution cause := by
  cases h : (resolve b.table wanted e).outcome <;> simp [runResolve, h, eq_comm]

theorem runResolve_of_error {err : ResolveError} (h : (classify e).outcome = .error err)
    (wanted : ValueType) (json : Bool) :
    (runResolve b e wanted json).result = .error (.resolution err) :=
  runResolve_eq_error_iff.mpr ⟨err, Traced.outcome_bind_eq_error.mpr (.inl h), rfl⟩

theorem runParse_eq_error_iff {err : RunError} : (runParse e).result = .error err ↔
    ∃ cause, (classify e).outcome = .error cause ∧ err = .resolution cause := by
  cases h : (classify e).outcome <;> simp [runParse, h, eq_comm]

/-- No resolution with the names that a check has found lacks one of them. -/
theorem runResolve_ne_unresolved {out : Text} (h : (runCheck b e).result = .ok out)
    (wanted : ValueType) (json : Bool) (n : Text) :
    (runResolve b e wanted json).result ≠ .error (.resolution (.unresolved n)) := by
  obtain ⟨shape, hs, hpresent⟩ := exists_runCheck_ok_iff.mp ⟨out, h⟩
  intro hresult
  obtain ⟨_, hunresolved, hcause⟩ := runResolve_eq_error_iff.mp hresult
  cases hcause
  obtain ⟨hread, hnone⟩ := Table.of_firstAbsent?_eq_some (resolve_eq_unresolved_iff.mp hunresolved)
  rw [namesRead, classify_eq_ok_iff.mp hs] at hread
  exact hpresent n (Shape.mem_mentions_of_mem_reads hread) (Bindings.table_eq_none_iff.mp hnone)

end Checks

section Runs

theorem perform_check_of_ok (h : load files s = .ok b) (e : Text) :
    perform files (.check e s) = runCheck b e := by
  simp only [perform, h]

theorem perform_resolve_of_ok (h : load files s = .ok b) (e : Text) (wanted : ValueType)
    (json : Bool) : perform files (.resolve e s wanted json) = runResolve b e wanted json := by
  simp only [perform, h]

/-- Without parameters nothing is noted, and the expression is not looked at. -/
theorem perform_of_load_error {err : LoadError} (h : load files s = .error err) (e : Text)
    (wanted : ValueType) (json : Bool) :
    perform files (.check e s) = ⟨.error (.load err), []⟩ ∧
      perform files (.resolve e s wanted json) = ⟨.error (.load err), []⟩ := by
  simp only [perform, h, and_self]

theorem exists_load_of_check_ok {out : Text} (h : (perform files (.check e s)).result = .ok out) :
    ∃ b, load files s = .ok b ∧ (runCheck b e).result = .ok out := by
  cases hload : load files s with
  | error err => simp [perform, hload] at h
  | ok b => exact ⟨b, rfl, by rwa [perform_check_of_ok hload] at h⟩

/-- To set what a check lists as missing, in whatever order and to whatever texts, is enough. -/
theorem check_of_settings {missing : List Text} {ps : List (Text × Text)}
    (h : (perform files (.check e s)).result = .error (.missing missing))
    (hps : ∀ n, n ∈ missing ↔ ∃ v, (n, v) ∈ ps) :
    ∃ out, (perform files (.check e { s with
      assignments := s.assignments ++ ps.map setting })).result = .ok out := by
  cases hload : load files s with
  | error err => simp [(perform_of_load_error hload e .string false).1] at h
  | ok b =>
    rw [perform_check_of_ok hload] at h
    cases hs : (classify e).outcome with
    | error err => simp [runCheck_of_error hs] at h
    | ok shape =>
      obtain ⟨-, hmissing⟩ := (runCheck_eq_error_iff hs).mp h
      cases hmissing
      -- what is missing is mentioned by an expression that was read, and so is written as a name
      have hwritten := written_of_classify? (classify_eq_ok_iff.mp hs)
      have hnames : ∀ p ∈ ps, IsName p.1 := fun p hp =>
        hwritten.isName_of_mem_mentions (mem_absentNames_iff.mp ((hps p.1).mpr ⟨p.2, hp⟩)).1
      obtain ⟨b', hb', hfind⟩ := exists_assign_settings (b := b) hnames
      have hload' : load files { s with assignments := s.assignments ++ ps.map setting } =
          .ok b' := by
        rw [load_append, hload]
        exact hb'
      rw [perform_check_of_ok hload']
      refine exists_runCheck_ok_iff.mpr ⟨shape, hs, fun n hn hnone => ?_⟩
      obtain ⟨hold, hnot⟩ := (hfind n).mp hnone
      obtain ⟨v, hv⟩ := (hps n).mp (mem_absentNames_iff.mpr ⟨hn, hold⟩)
      exact hnot v hv

end Runs

namespace Outcome

variable {o : Outcome}

/-- A run succeeds: it exits with 0 and has an output, and without being verbose no diagnostics. -/
def Succeeds (o : Outcome) (output : Text) : Prop :=
  ∀ verbose, ∃ notes, (verbose = false → notes = []) ∧ o.answer verbose = ⟨0, output, notes⟩

/-- A run fails: it exits with 1 and has no output. The last line of its diagnostics is a message,
and without being verbose there is no other. -/
def FailsWith (o : Outcome) (message : Text) : Prop :=
  ∀ verbose, ∃ notes, (verbose = false → notes = []) ∧
    o.answer verbose = ⟨1, [], notes ++ ("✗ ".toList ++ message ++ ['\n'])⟩

theorem succeeds_of_ok {output : Text} (h : o.result = .ok output) : o.Succeeds output := by
  intro verbose
  refine ⟨if verbose then o.notes.flatten else [], ?_, ?_⟩
  · rintro rfl
    rfl
  · simp only [answer, h]

theorem failsWith_of_error {err : RunError} (h : o.result = .error err) :
    o.FailsWith err.message := by
  intro verbose
  refine ⟨if verbose then o.notes.flatten else [], ?_, ?_⟩
  · rintro rfl
    rfl
  · simp only [answer, h, line]

end Outcome

/-- Checking agrees with resolving on the command line. After a check that succeeds no resolution
lacks a name. Once the parameters are loaded and the expression is read, a check fails exactly if a
name is lacking; it then lists what is lacking, each name once and in order, and to set these names
makes it succeed. Parameters that cannot be loaded are what is reported, whatever the expression is.
Else an expression that is not read fails each kind of run for this, and a resolution fails exactly
if there is no value, for the same cause. A run that fails exits with 1, without output, and one
that does not exits with 0. -/
theorem check_agrees_with_resolve (files : Text → Except FileFault Text) (s : Sources) (e : Text) :
    (∀ out, (perform files (.check e s)).result = .ok out → ∀ wanted json n,
      (perform files (.resolve e s wanted json)).result ≠
        .error (.resolution (.unresolved n))) ∧
    (∀ b shape, load files s = .ok b → (classify e).outcome = .ok shape →
      ((∃ err, (perform files (.check e s)).result = .error err) ↔
        ∃ n ∈ shape.mentions, b.find? n = none) ∧
      ∀ err, (perform files (.check e s)).result = .error err →
        ∃ missing, err = .missing missing ∧ missing.Nodup ∧
          (∀ n, n ∈ missing ↔ n ∈ shape.mentions ∧ b.find? n = none) ∧
          missing.Pairwise (fun m n => shape.mentions.idxOf m < shape.mentions.idxOf n) ∧
          (perform files (.check e s)).FailsWith
            ("missing parameters: ".toList ++ List.intercalate [',', ' '] missing)) ∧
    (∀ missing, (perform files (.check e s)).result = .error (.missing missing) →
      ∀ ps : List (Text × Text), (∀ n, n ∈ missing ↔ ∃ v, (n, v) ∈ ps) →
        ∃ out, (perform files (.check e { s with
          assignments := s.assignments ++ ps.map setting })).result = .ok out) ∧
    (∀ err, load files s = .error err → ∀ wanted json,
      (perform files (.check e s)).result = .error (.load err) ∧
        (perform files (.resolve e s wanted json)).result = .error (.load err)) ∧
    (∀ b, load files s = .ok b →
      (∀ cause, (classify e).outcome = .error cause →
        (perform files (.check e s)).result = .error (.resolution cause) ∧
          ∀ wanted json,
            (perform files (.resolve e s wanted json)).result = .error (.resolution cause)) ∧
      ∀ wanted json err, (perform files (.resolve e s wanted json)).result = .error err ↔
        ∃ cause, (resolve b.table wanted e).outcome = .error cause ∧ err = .resolution cause) ∧
    (∀ err, (perform files (.parse e)).result = .error err ↔
      ∃ cause, (classify e).outcome = .error cause ∧ err = .resolution cause) ∧
    ∀ request,
      (∀ out, (perform files request).result = .ok out → (perform files request).Succeeds out) ∧
      ∀ err, (perform files request).result = .error err →
        (perform files request).FailsWith err.message := by
  refine ⟨?_, ?_, ?_, ?_, ?_, ?_, ?_⟩
  · intro out h wanted json n
    obtain ⟨b, hload, hcheck⟩ := exists_load_of_check_ok h
    rw [perform_resolve_of_ok hload]
    exact runResolve_ne_unresolved hcheck wanted json n
  · intro b shape hload hs
    refine ⟨?_, fun err herr => ?_⟩
    · rw [perform_check_of_ok hload]
      simp [runCheck_eq_error_iff hs]
    · have hfails := Outcome.failsWith_of_error herr
      rw [perform_check_of_ok hload] at herr
      obtain ⟨-, rfl⟩ := (runCheck_eq_error_iff hs).mp herr
      exact ⟨_, rfl, nodup_absentNames b shape, fun n => mem_absentNames_iff,
        pairwise_absentNames b shape, hfails⟩
  · intro missing h ps hps
    exact check_of_settings h hps
  · intro err h wanted json
    obtain ⟨hcheck, hresolve⟩ := perform_of_load_error h e wanted json
    rw [hcheck, hresolve]
    exact ⟨rfl, rfl⟩
  · intro b hload
    simp only [perform_check_of_ok hload, perform_resolve_of_ok hload]
    refine ⟨fun cause h => ⟨runCheck_of_error h, runResolve_of_error h⟩, ?_⟩
    intro wanted json err
    exact runResolve_eq_error_iff
  · intro err
    exact runParse_eq_error_iff
  · intro request
    exact ⟨fun out => Outcome.succeeds_of_ok, fun err => Outcome.failsWith_of_error⟩

/-- Two names are lacking; they are set in the other order, one to a text with an equals sign. An
expression that is not read, and parameters that cannot be loaded for it. -/
theorem check_agrees_with_resolve_missing :
    let files : Text → Except FileFault Text := fun _ => .ok "\x7b\"a\": 1\x7d".toList
    let e := openMark ++ " params.a == 1 ? params.c : params.d ".toList ++ closeMark
    let s : Sources := ⟨some "file".toList, ["b=x".toList]⟩
    let t : Sources := ⟨some "file".toList, ["b=x".toList, "d=2".toList, "c=v=w".toList]⟩
    (perform files (.check e s)).result = .error (.missing [['c'], ['d']]) ∧
      (perform files (.check e s)).answer false =
        ⟨1, [], "✗ missing parameters: c, d\n".toList⟩ ∧
      (∃ out, (perform files (.check e t)).result = .ok out) ∧
      (∀ wanted json n, (perform files (.resolve e t wanted json)).result ≠
        .error (.resolution (.unresolved n))) ∧
      (∀ wanted json, (perform files (.resolve ['e'] s wanted json)).result =
        .error (.resolution (.structural ['e'] .unsupported))) ∧
      ∀ wanted json, (perform files (.resolve ['e'] ⟨none, [['b']]⟩ wanted json)).result =
        .error (.load (.noEquals ['b'])) := by
  intro files e s t
  have h : (perform files (.check e s)).result = .error (.missing [['c'], ['d']]) := by rfl
  have ht : ({ s with assignments := s.assignments ++
      [(['d'], ['2']), (['c'], "v=w".toList)].map setting } : Sources) = t := by decide
  obtain ⟨-, -, hset, -, -, -, hanswer⟩ := check_agrees_with_resolve files s e
  have hok := hset _ h [(['d'], ['2']), (['c'], "v=w".toList)] (by simp [exists_or, or_comm])
  rw [ht] at hok
  obtain ⟨out, hout⟩ := hok
  obtain ⟨notes, hnotes, hmessage⟩ := (hanswer (.check e s)).2 _ h false
  have htext : [] ++ ("✗ ".toList ++ (RunError.missing [['c'], ['d']]).message ++ ['\n']) =
      "✗ missing parameters: c, d\n".toList := by decide
  rw [hnotes rfl, htext] at hmessage
  obtain ⟨-, -, -, -, hread, -⟩ := check_agrees_with_resolve files s ['e']
  obtain ⟨-, -, -, hload, -⟩ := check_agrees_with_resolve files ⟨none, [['b']]⟩ ['e']
  refine ⟨h, hmessage, ⟨out, hout⟩, (check_agrees_with_resolve files t e).1 out hout, ?_, ?_⟩
  · exact ((hread _ rfl).1 _ rfl).2
  · exact fun wanted json => (hload _ rfl wanted json).2

end Command
end ParameterTemplates
