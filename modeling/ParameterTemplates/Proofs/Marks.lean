import ParameterTemplates.Proofs.EntryPoints

/-! The test for marks against the readers of templates. It passes exactly the texts with a mark at
each end, and every template is one of these. A text that fails the test is therefore refused by
every reader, and each of them reports the text as it is. -/
namespace ParameterTemplates
namespace Template

variable {t : Text}

/-- The two marks have no character in common, so that they cannot overlap in a text. -/
theorem exists_interior_of_marks (hopen : openMark <+: t) (hclose : closeMark <:+ t) :
    ∃ i, t = openMark ++ i ++ closeMark := by
  obtain ⟨r, rfl⟩ := hopen
  obtain ⟨l, hl⟩ := hclose
  rcases List.append_eq_append_iff.mp hl with ⟨i, hopen, hclose⟩ | ⟨i, -, hr⟩
  · have hdisjoint : ∀ c ∈ openMark, c ∉ closeMark := by simp [openMark, closeMark]
    have hi : i = [] := by
      refine List.eq_nil_iff_forall_not_mem.mpr fun c hc => hdisjoint c ?_ ?_
      · rw [hopen]
        exact List.mem_append_right l hc
      · rw [hclose]
        exact List.mem_append_left r hc
    subst hi
    exact ⟨[], by rw [hclose, List.append_nil, List.nil_append]⟩
  · exact ⟨i, by rw [hr, List.append_assoc]⟩

theorem isMarked_iff : isMarked t = true ↔ ∃ i, t = openMark ++ i ++ closeMark := by
  simp only [isMarked, Bool.and_eq_true, decide_eq_true_eq, List.isPrefixOf_iff_prefix,
    List.isSuffixOf_iff_suffix]
  constructor
  · rintro ⟨⟨-, hopen⟩, hclose⟩
    exact exists_interior_of_marks hopen hclose
  · rintro ⟨i, rfl⟩
    refine ⟨⟨?_, i ++ closeMark, by rw [List.append_assoc]⟩, openMark ++ i, rfl⟩
    simp only [List.length_append, openMark, closeMark, List.length_cons, List.length_nil]
    omega

/-- Two marks are long enough, so that it does not matter in what a text is measured. -/
theorem isMarked_eq_of_length_le {size : Nat} (h : t.length ≤ size) :
    isMarked t = (4 ≤ size && openMark.isPrefixOf t && closeMark.isSuffixOf t) := by
  rw [Bool.eq_iff_iff]
  simp only [Bool.and_eq_true, decide_eq_true_eq]
  constructor
  · intro hmarked
    simp only [isMarked, Bool.and_eq_true, decide_eq_true_eq] at hmarked
    exact ⟨⟨hmarked.1.1.trans h, hmarked.1.2⟩, hmarked.2⟩
  · rintro ⟨⟨-, hopen⟩, hclose⟩
    exact isMarked_iff.mpr (exists_interior_of_marks (List.isPrefixOf_iff_prefix.mp hopen)
      (List.isSuffixOf_iff_suffix.mp hclose))

theorem length_le_utf8ByteSize (t : Text) : t.length ≤ (String.ofList t).utf8ByteSize := by
  induction t with
  | nil => exact Nat.zero_le _
  | cons c t ih =>
    have hpos := c.utf8Size_pos
    rw [String.ofList_cons, String.utf8ByteSize_append, String.utf8ByteSize_singleton,
      List.length_cons]
    omega

theorem isMarked_of_written {shape : Shape} (h : Written shape t) : isMarked t = true :=
  isMarked_iff.mpr h.marked

theorem read?_eq_none_of_not_marked (h : isMarked t = false) (kind : ShapeKind) :
    read? kind t = none := by
  rw [Option.eq_none_iff_forall_ne_some]
  intro shape hshape
  rw [isMarked_of_written (read?_eq_some_iff.mp hshape).2] at h
  contradiction

end Template

open Template

/-- The test for marks passes the texts with something, or nothing, between two marks, whether the
length is counted in characters or in bytes. It passes whatever is read as a template of any shape.
A text that it does not pass is refused as it stands: it is not classified, refers to nothing, and is
resolved neither for any shape nor for a given one. -/
theorem marks_screen_out_no_template :
    (∀ t, isMarked t = true ↔ ∃ i, t = openMark ++ i ++ closeMark) ∧
    (∀ t, isMarked t = (4 ≤ (String.ofList t).utf8ByteSize && openMark.isPrefixOf t &&
      closeMark.isSuffixOf t)) ∧
    (∀ t kind shape, read? kind t = some shape → isMarked t = true) ∧
    ∀ t, isMarked t = false →
      (classify t).outcome = .error (.structural t .unsupported) ∧
      (referencedParameters t).outcome = .error (.structural t .unsupported) ∧
      ∀ table wanted,
        (resolve table wanted t).outcome = .error (.structural t .unsupported) ∧
        ∀ kind, (resolveAs kind table wanted t).outcome =
          .error (.structural t (.otherForm kind)) := by
  refine ⟨fun t => isMarked_iff, ?_, ?_, ?_⟩
  · intro t
    exact isMarked_eq_of_length_le (length_le_utf8ByteSize t)
  · intro t kind shape h
    exact isMarked_of_written (read?_eq_some_iff.mp h).2
  · intro t h
    have hread := read?_eq_none_of_not_marked h
    have hnone : classify? t = none := classify?_eq_none_iff_read?.mpr hread
    have hclassify := classify_eq_error_iff.mpr hnone
    refine ⟨hclassify, ?_, fun table wanted => ⟨?_, fun kind => ?_⟩⟩
    · rw [referencedParameters, Traced.bind_of_error hclassify]
    · rw [resolve_outcome, hnone]
    · exact resolveAs_of_read?_eq_none (hread kind)

/-- A template with a blank behind it, too few braces for two marks, and a template. -/
theorem marks_screen_out_no_template_blank :
    let t : Text := "\x7b\x7b params.a \x7d\x7d\u3000".toList
    let table : Table := fun _ => some (.ofScalar (.boolean true))
    (resolve table .boolean t).outcome = .error (.structural t .unsupported) ∧
      (resolveAs .identity table .boolean t).outcome =
        .error (.structural t (.otherForm .identity)) ∧
      (classify ['\x7b', '\x7b', '\x7d']).outcome =
        .error (.structural ['\x7b', '\x7b', '\x7d'] .unsupported) ∧
      isMarked "\x7b\x7b params.a \x7d\x7d".toList = true := by
  intro t table
  obtain ⟨-, -, hmarked, hrefused⟩ := marks_screen_out_no_template
  obtain ⟨-, -, hresolve⟩ := hrefused t (by decide)
  refine ⟨(hresolve table .boolean).1, (hresolve table .boolean).2 .identity, ?_, ?_⟩
  · exact (hrefused _ (by decide)).1
  · exact hmarked _ .identity (.identity ['a']) (by decide)

end ParameterTemplates
