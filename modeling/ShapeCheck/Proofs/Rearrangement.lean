import ShapeCheck.Proofs.Scopes
import ShapeCheck.Proofs.Slices
import ShapeCheck.Value.Equality

/-!
# Records whose entries are rearranged

The order in which the entries of a plain object stand is kept, but equality of values does not see
it. Reports of one scope keep the same entries of a record, each in the order of its own keys, so
that shapes whose reports have the same scope have slices that only differ in the order of entries.
-/

namespace ShapeCheck

theorem nodup_eraseDups (names : List String) : names.eraseDups.Nodup := by
  match names with
  | [] => exact List.nodup_nil
  | name :: names =>
    rw [List.eraseDups_cons, List.nodup_cons]
    refine ⟨?_, nodup_eraseDups (names.filter fun other => !other == name)⟩
    rw [List.mem_eraseDups]
    simp
termination_by names.length
decreasing_by exact Nat.lt_succ_of_le (List.length_filter_le _ _)

/-- Entries with distinct keys are determined by what is found under keys, up to their order. -/
theorem Entries.perm_of_get?_eq {α : Type} {entries more : List (String × α)}
    (h : (Entries.keys entries).Nodup) (h' : (Entries.keys more).Nodup)
    (hget : ∀ key, Entries.get? entries key = Entries.get? more key) : entries.Perm more := by
  refine (List.perm_ext_iff_of_nodup h.of_map h'.of_map).2 ?_
  rintro ⟨key, value⟩
  rw [← Entries.get?_eq_some_iff h, hget, Entries.get?_eq_some_iff h']

namespace Value

/-- The same value, but for the order of the entries of a plain object. -/
inductive Rearranged : Value → Value → Prop where
  | refl (v : Value) : Rearranged v v
  | entries {xs ys : List (String × Value)} (h : xs.Perm ys) : Rearranged (.object xs) (.object ys)

theorem equalEntries_eq_all (xs ys : List (String × Value)) :
    equalEntries xs ys = xs.all fun entry => (Entries.get? ys entry.1).any entry.2.equals := by
  induction xs with
  | nil => rfl
  | cons entry xs ih =>
    obtain ⟨key, x⟩ := entry
    rw [equalEntries, List.all_cons, ih]
    cases Entries.get? ys key <;> rfl

namespace Rearranged

variable {v w : Value}

/-- No value is equal to one of them only. -/
theorem equals_eq (h : v.Rearranged w) (x : Value) : v.equals x = w.equals x := by
  cases h with
  | refl => rfl
  | entries h =>
    cases x with
    | object zs =>
      rw [equals, equals, equalEntries_eq_all, equalEntries_eq_all, h.length_eq, h.all_eq]
    | _ => simp [equals]

end Rearranged

end Value

namespace KeyReport

/-- The keys that are selected are those that are there, in the order of the names. -/
theorem keys_select (entries : List (String × Value)) (names : List String) :
    Entries.keys (select entries names)
      = names.eraseDups.filter fun name => (Entries.get? entries name).isSome := by
  rw [select, Entries.keys, List.map_filterMap, ← List.filterMap_eq_filter]
  refine List.filterMap_congr fun name _ => ?_
  cases hget : Entries.get? entries name <;> simp [hget, Option.guard]

/-- No key is selected twice. -/
theorem nodup_keys_select (entries : List (String × Value)) (names : List String) :
    (Entries.keys (select entries names)).Nodup := by
  rw [keys_select]
  exact (nodup_eraseDups names).filter _

/-- The same keys select the same entries, in whatever order the keys stand. -/
theorem select_perm {known more : List String} (h : known.toFinset = more.toFinset)
    (entries : List (String × Value)) : (select entries known).Perm (select entries more) := by
  refine Entries.perm_of_get?_eq (nodup_keys_select _ _) (nodup_keys_select _ _) fun key => ?_
  have hmem : key ∈ known ↔ key ∈ more := by rw [← List.mem_toFinset, h, List.mem_toFinset]
  rw [get?_select, get?_select]
  simp only [hmem]

/-- Reports of one scope keep the same entries of a value. -/
theorem project_rearranged {a b : KeyReport} (h : a.scope = b.scope) (v : Value) :
    (a.project v).Rearranged (b.project v) := by
  obtain ⟨ka, ea⟩ := a
  obtain ⟨kb, eb⟩ := b
  have hknown : ka.map List.toFinset = kb.map List.toFinset := congrArg KeyScope.known h
  cases hv : v.record? with
  | none =>
    simp only [project, hv]
    exact .refl v
  | some entries =>
    cases ka with
    | none =>
      cases kb with
      | none => exact .refl v
      | some more => cases hknown
    | some known =>
      cases kb with
      | none => cases hknown
      | some more =>
        rw [project_of_record rfl hv, project_of_record rfl hv]
        exact .entries (select_perm (Option.some.inj hknown) entries)

end KeyReport

namespace Shape

variable {s t : Shape} {v w : Value}

theorem nodup_keys_arrange {entries : List (String × Value)} (h : (Entries.keys entries).Nodup)
    (names : List String) : (Entries.keys (arrange names entries)).Nodup := by
  rw [arrange, Entries.keys_append, Entries.keys_filter fun name => !names.contains name,
    List.nodup_append]
  refine ⟨KeyReport.nodup_keys_select _ _, h.filter _, ?_⟩
  rintro key hkey _ hother rfl
  obtain ⟨entry, hentry, rfl⟩ := List.mem_map.1 hkey
  simp [(KeyReport.mem_select_iff.1 hentry).1] at hother

/-- Arranging entries with distinct keys neither loses nor repeats one. -/
theorem arrange_perm {entries : List (String × Value)} (h : (Entries.keys entries).Nodup)
    (names : List String) : (arrange names entries).Perm entries :=
  Entries.perm_of_get?_eq (nodup_keys_arrange h names) h (get?_arrange names entries)

/-- Where the scopes of reports agree, so do slices, up to the order of entries. -/
theorem slice_rearranged_of_scope? (hs : ¬s.IsHybrid) (ht : ¬t.IsHybrid)
    (h : s.scope? v = t.scope? v) (hw : s.slice v = .ok w) :
    ∃ w', t.slice v = .ok w' ∧ w.Rearranged w' := by
  obtain ⟨report, hreport, hkeys, rfl⟩ := (slice_eq_ok_iff hs).1 hw
  rw [scope?_of_report? hreport] at h
  obtain ⟨other, hother, hscope⟩ := Option.map_eq_some_iff.1 h.symm
  have hpermits := (KeyReport.permits_iff_of_scope_eq hscope).2 (KeyReport.permits_iff.2 hkeys)
  refine ⟨other.project v, ?_, KeyReport.project_rearranged hscope.symm v⟩
  exact (slice_eq_ok_iff ht).2 ⟨other, hother, KeyReport.permits_iff.1 hpermits, rfl⟩

end Shape

end ShapeCheck
