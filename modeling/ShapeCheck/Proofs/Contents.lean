import ShapeCheck.Proofs.Rearrangement

/-!
# What slices contain

A slice is made in one of three ways. A merged shape with fields and a dictionary arranges the
entries of a record, all of them. Every other shape leaves the record as it is where no keys are
known, and otherwise selects the entries under the known keys. Known keys may repeat, because both
sides of an intersection report theirs, but no entry is kept twice. What is no record is its own
slice.
-/

namespace ShapeCheck

/-- What is kept if entries are selected by names. -/
structure Entries.SelectedBy (names : List String) (entries kept : List (String × Value)) :
    Prop where
  mem_iff : ∀ key x, (key, x) ∈ kept ↔ key ∈ names ∧ Entries.get? entries key = some x
  /-- The keys stand in the order in which they first come among the names, each once. -/
  keys : Entries.keys kept = names.eraseDups.filter fun name => name ∈ Entries.keys entries
  distinct : (Entries.keys kept).Nodup

/-- What a report of the keys of a record leaves of it. -/
structure KeyReport.Leaves (report : KeyReport) (v w : Value) (entries : List (String × Value)) :
    Prop where
  untracked : report.known = none → w = v
  tracked : ∀ known, report.known = some known →
    ∃ kept, w = .object kept ∧ Entries.SelectedBy known entries kept
  exact : report.exact = true →
    ∃ kept, w.record? = some kept ∧ ∀ key ∈ Entries.keys entries, key ∈ Entries.keys kept

namespace KeyReport

variable {report : KeyReport} {v : Value} {entries : List (String × Value)}

theorem selectedBy_select (names : List String) (entries : List (String × Value)) :
    Entries.SelectedBy names entries (select entries names) where
  mem_iff _ _ := mem_select_iff
  keys := by
    rw [keys_select]
    refine List.filter_congr fun name _ => ?_
    rw [Bool.eq_iff_iff, Entries.isSome_get?_iff, decide_eq_true_iff]
  distinct := nodup_keys_select entries names

/-- The known keys are the only ones that a report without forbidden entries can leave out, and an
exact report knows them all. -/
theorem leaves_project (hv : v.record? = some entries) (h : report.forbidden v = []) :
    report.Leaves v (report.project v) entries where
  untracked hnone := by
    simp only [project, hnone]
  tracked known hknown := by
    rw [project_of_record hknown hv]
    exact ⟨_, rfl, selectedBy_select known entries⟩
  exact hexact := by
    obtain hopen | hnone | hother | ⟨known, more, hknown, hmore, hkeys⟩ := permits_iff.2 h
    · cases hexact.symm.trans hopen
    · refine ⟨entries, ?_, fun key hkey => hkey⟩
      simp only [project, hnone, hv]
    · cases hv.symm.trans hother
    · cases hv.symm.trans hmore
      rw [project_of_record hknown hv]
      refine ⟨_, rfl, fun key hkey => ?_⟩
      obtain ⟨entry, hentry, rfl⟩ := List.mem_map.1 hkey
      rw [← Entries.isSome_get?_iff, get?_select, if_pos (hkeys entry hentry)]
      exact Entries.isSome_get?_iff.2 hkey

end KeyReport

namespace Shape

variable {s : Shape} {v w : Value}

/-- What is no record is not changed. -/
theorem slice_of_not_record (h : s.slice v = .ok w) (hv : v.record? = none) : w = v := by
  by_cases hhybrid : s.IsHybrid
  · obtain ⟨r, d, hc⟩ := hhybrid
    obtain ⟨entries, hrecord, -⟩ := (slice_of_isHybrid hc).1 h
    cases hv.symm.trans hrecord
  · obtain ⟨report, -, -, rfl⟩ := (slice_eq_ok_iff hhybrid).1 h
    obtain heq | ⟨_, entries, -, hrecord⟩ := report.project_eq_self_or v
    · exact heq
    · cases hv.symm.trans hrecord

/-- A slice of a value that is no record is the value. A merged shape with fields and a dictionary
keeps all entries of a record, those of its fields first. Otherwise a slice keeps what the report of
the known keys says, which is all there is if the report is exact. -/
theorem slice_contents (h : s.slice v = .ok w) :
    (v.record? = none → w = v)
      ∧ (∀ r d entries, s.bare.constraint? = some (.both r d) → v.record? = some entries →
          ∃ named others, w = .object (named ++ others)
            ∧ Entries.SelectedBy (Entries.keys r.fields) entries named
            ∧ others = entries.filter (fun entry => entry.1 ∉ Entries.keys r.fields)
            ∧ ((Entries.keys entries).Nodup → (named ++ others).Perm entries))
      ∧ (∀ entries, ¬s.IsHybrid → v.record? = some entries →
          ∃ report, s.track v = .ok report ∧ report.Leaves v w entries) := by
  refine ⟨slice_of_not_record h, ?_, ?_⟩
  · intro r d entries hc hv
    obtain ⟨more, hmore, -, rfl⟩ := (slice_of_isHybrid hc).1 h
    cases hv.symm.trans hmore
    refine ⟨_, _, rfl, KeyReport.selectedBy_select _ _, ?_, ?_⟩
    · simp
    · exact fun hdistinct => arrange_perm hdistinct _
  · intro entries hhybrid hv
    obtain ⟨report, hreport, hkeys, rfl⟩ := (slice_eq_ok_iff hhybrid).1 h
    exact ⟨report, track_eq_ok_iff.2 hreport, KeyReport.leaves_project hv hkeys⟩

/-- A key that both sides of an intersection know is kept once, and a branch that is not followed
knows nothing. -/
theorem slice_contents_known_twice :
    (((openRecord [("b", ⟨any, .required⟩)]).or (openRecord [("c", ⟨any, .required⟩)])).and
        (openRecord [("a", ⟨any, .optional⟩), ("b", ⟨any, .optional⟩)])).slice
          (.object [("a", .null), ("c", .null), ("b", .null)])
        = .ok (.object [("b", .null), ("a", .null)])
      ∧ ∃ report,
        (((openRecord [("b", ⟨any, .required⟩)]).or (openRecord [("c", ⟨any, .required⟩)])).and
          (openRecord [("a", ⟨any, .optional⟩), ("b", ⟨any, .optional⟩)])).track
            (.object [("a", .null), ("c", .null), ("b", .null)]) = .ok report
        ∧ report.Leaves (.object [("a", .null), ("c", .null), ("b", .null)])
            (.object [("b", .null), ("a", .null)]) [("a", .null), ("c", .null), ("b", .null)] := by
  have hslice : (((openRecord [("b", ⟨any, .required⟩)]).or
      (openRecord [("c", ⟨any, .required⟩)])).and
      (openRecord [("a", ⟨any, .optional⟩), ("b", ⟨any, .optional⟩)])).slice
        (.object [("a", .null), ("c", .null), ("b", .null)])
      = .ok (.object [("b", .null), ("a", .null)]) := rfl
  obtain ⟨-, -, hleaves⟩ := slice_contents hslice
  exact ⟨hslice, hleaves _ (not_isHybrid_of_constraint?_bare rfl) rfl⟩

end Shape

end ShapeCheck
