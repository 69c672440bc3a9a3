import ShapeCheck.Proofs.Equality
import ShapeCheck.Proofs.NamedKeys

/-!
# Checking equal values

Nothing that a shape looks at tells a value from an equal one, as long as the tests of the caller do
not. Tags, classes and literals are the same for both, the parts of containers are equal in order,
and the entries of records are equal under the same keys. Entries may stand in another order, and
so the report of known keys is the same for both values, whichever order their entries have, while
slices are equal without being the same.
-/

namespace ShapeCheck

namespace Value.EntriesAgree

variable {xs ys : List (String × Value)}

/-- The same keys select entries that agree. -/
theorem select (h : EntriesAgree xs ys) (keys : List String) :
    EntriesAgree (KeyReport.select xs keys) (KeyReport.select ys keys) := by
  intro key
  rw [KeyReport.get?_select, KeyReport.get?_select]
  split
  · exact h key
  · exact .none

theorem arrange (h : EntriesAgree xs ys) (names : List String) :
    EntriesAgree (Shape.arrange names xs) (Shape.arrange names ys) := by
  intro key
  rw [Shape.get?_arrange, Shape.get?_arrange]
  exact h key

end Value.EntriesAgree

namespace KeyReport

variable {v w : Value}

/-- A report that permits the keys of a value permits those of an equal one. -/
theorem forbidden_eq_nil_iff (report : KeyReport) (h : v.EqualByParts w) :
    report.forbidden v = [] ↔ report.forbidden w = [] := by
  obtain ⟨hv, hw⟩ | ⟨xs, ys, hv, hw, hagree⟩ := h.record?_cases
  · simp [forbidden_of_record?_eq_none hv, forbidden_of_record?_eq_none hw]
  · have hkeys (entries : List (String × Value)) (known : List String) :
        (∀ entry ∈ entries, entry.1 ∈ known) ↔ ∀ key ∈ Entries.keys entries, key ∈ known :=
      List.forall_mem_map.symm
    simp only [← permits_iff, Permits, hv, hw, Option.some.injEq, exists_and_left, exists_eq_left',
      hkeys, hagree.mem_keys_iff, reduceCtorEq]

/-- Of equal values a report keeps equal parts. -/
theorem project_equal (report : KeyReport) (hequal : v.Equal w) (h : v.EqualByParts w) :
    (report.project v).Equal (report.project w) := by
  cases hknown : report.known with
  | none => simpa only [project, hknown] using hequal
  | some known =>
    obtain ⟨hv, hw⟩ | ⟨xs, ys, hv, hw, hagree⟩ := h.record?_cases
    · simpa only [project, hknown, hv, hw] using hequal
    · rw [project_of_record hknown hv, project_of_record hknown hw,
        Value.equal_object_iff (nodup_keys_select _ _) (nodup_keys_select _ _)]
      exact hagree.select known

end KeyReport

namespace Shape

/-- Whether a shape accepts all or none of the values that are equal to each other. -/
def RespectsEquality (s : Shape) : Prop :=
  ∀ v w : Value, v.DistinctKeys → w.DistinctKeys → v.Equal w → s.accepts v = s.accepts w

/-- Whether the test of a shape, if it has one, gives equal values equal answers. -/
def TestRespectsEquality : Shape → Prop
  | guarded _ test =>
    ∀ v w : Value, v.DistinctKeys → w.DistinctKeys → v.Equal w → test v = test w
  | validation _ test =>
    ∀ v w : Value, v.DistinctKeys → w.DistinctKeys → v.Equal w →
      (test v = .holds ↔ test w = .holds)
  | _ => True

theorem keptByAnd_testRespectsEquality : KeptByAnd TestRespectsEquality where
  commented _ _ := trivial
  union _ _ := trivial
  inter _ _ := trivial
  merged _ _ _ _ _ _ _ _ := trivial

end Shape

/-- Equal values, or none on both sides, are admitted by the same fields. -/
theorem Field.admits_iff_of_rel {f : Field Shape} (hf : f.shape.RespectsEquality)
    {x? y? : Option Value} (h : Option.Rel Value.Equal x? y?)
    (hx : ∀ x ∈ x?, x.DistinctKeys) (hy : ∀ y ∈ y?, y.DistinctKeys) :
    f.Admits x? ↔ f.Admits y? := by
  cases h with
  | none => rfl
  | @some x y h =>
    have hundefined := (Value.equalByParts_of_equal (hx x rfl) (hy y rfl) h).isUndefined_eq
    simp only [Field.Admits, hundefined, hf x y (hx x rfl) (hy y rfl) h]

/-- A constraint holds on both of two records that agree, or on neither. -/
theorem Constraint.holdsOn_iff_of_agree {c : Constraint Shape}
    (hc : ∀ t ∈ c.parts, t.RespectsEquality) {v w : Value} {xs ys : List (String × Value)}
    (hv : v.DistinctKeys) (hw : w.DistinctKeys) (hxs : v.record? = some xs)
    (hys : w.record? = some ys) (h : Value.EntriesAgree xs ys) : c.HoldsOn xs ↔ c.HoldsOn ys := by
  have left : ∀ x ∈ xs, x.2.DistinctKeys := fun x hx => hv.part (Value.mem_parts_of_record? hxs hx)
  have right : ∀ y ∈ ys, y.2.DistinctKeys := fun y hy => hw.part (Value.mem_parts_of_record? hys hy)
  rw [holdsOn_iff, holdsOn_iff]
  refine and_congr (forall₂_congr fun field hfield => ?_) (forall₂_congr fun d hd => ?_)
  · refine Field.admits_iff_of_rel (hc _ (mem_parts_of_field hfield)) (h field.1) ?_ ?_
    · exact fun x hx => left _ (Entries.mem_of_get? hx)
    · exact fun y hy => right _ (Entries.mem_of_get? hy)
  · refine h.forall_mem_iff (p := fun x => d.value.accepts x = true) (hv.here hxs) (hw.here hys) ?_
    intro x hx y hy hxy
    rw [hc _ (mem_parts_of_dict? hd) _ _ (left x hx) (right y hy) hxy]

namespace Shape

variable {s : Shape} {v w : Value}

theorem forall_mem_presentSlots {p : Value → Prop} {i : Nat} {slots : List (Option Value)} :
    (∀ part ∈ presentSlots i slots, p part.2) ↔ ∀ slot ∈ slots, ∀ x ∈ slot, p x := by
  induction slots generalizing i with
  | nil => simp [presentSlots]
  | cons slot rest ih =>
    rw [List.forall_mem_cons, ← ih (i := i + 1)]
    cases slot with
    | none => simp [presentSlots]
    | some x => simp only [presentSlots, List.forall_mem_cons, Option.mem_some_iff, forall_eq']

theorem forall_mem_positions {p : Value → Prop} {i : Nat} {items : List Value} :
    (∀ part ∈ positions i items, p part.2) ↔ ∀ x ∈ items, p x := by
  induction items generalizing i with
  | nil => simp [positions]
  | cons item rest ih => rw [positions, List.forall_mem_cons, List.forall_mem_cons, ih]

theorem checkPairs_eq_ok_iff {checkKey checkValue : Value → Except Failure Unit} {i : Nat}
    {entries : List (Value × Value)} :
    checkPairs checkKey checkValue i entries = .ok () ↔
      ∀ entry ∈ entries, checkKey entry.1 = .ok () ∧ checkValue entry.2 = .ok () := by
  induction entries generalizing i with
  | nil => simp [checkPairs]
  | cons entry rest ih =>
    obtain ⟨k, x⟩ := entry
    cases hk : checkKey k with
    | error failure => simp [checkPairs, hk]
    | ok _ => cases hx : checkValue x <;> simp [checkPairs, hk, hx, ih]

theorem report?_array_eq_some_iff {element : Shape} {slots : List (Option Value)}
    {report : KeyReport} :
    (array element).report? (.array slots) = some report ↔
      (∀ slot ∈ slots, ∀ x ∈ slot, element.accepts x = true) ∧ report = .untracked := by
  rw [report?_eq_some_iff, judge_array, untrackedIf_eq_ok_iff, checkArray, checkEach_eq_ok_iff,
    forall_mem_presentSlots (p := fun x => element.check x = .ok ())]
  simp only [accepts_iff]

theorem report?_set_eq_some_iff {element : Shape} {items : List Value} {report : KeyReport} :
    (set element).report? (.set items) = some report ↔
      (∀ x ∈ items, element.accepts x = true) ∧ report = .untracked := by
  rw [report?_eq_some_iff, judge_set, untrackedIf_eq_ok_iff, checkSet, checkEach_eq_ok_iff,
    forall_mem_positions (p := fun x => element.check x = .ok ())]
  simp only [accepts_iff]

theorem report?_map_eq_some_iff {key value : Shape} {entries : List (Value × Value)}
    {report : KeyReport} :
    (map key value).report? (.map entries) = some report ↔
      (∀ entry ∈ entries, key.accepts entry.1 = true ∧ value.accepts entry.2 = true)
        ∧ report = .untracked := by
  rw [report?_eq_some_iff, judge_map, untrackedIf_eq_ok_iff, checkMap, checkPairs_eq_ok_iff]
  simp only [accepts_iff]

/-- What is reported alike of equal values is accepted alike. -/
theorem accepts_eq_of_report?_eq (h : v.EqualByParts w) (hreports : s.report? v = s.report? w) :
    s.accepts v = s.accepts w := by
  rw [Bool.eq_iff_iff, accepts_iff_report?, accepts_iff_report?, hreports]
  refine exists_congr fun report => and_congr_right fun _ => ?_
  exact report.forbidden_eq_nil_iff h

namespace RespectsEquality

variable {element key value : Shape}

theorem report?_array (hs : element.RespectsEquality) (hv : v.DistinctKeys) (hw : w.DistinctKeys)
    (h : v.EqualByParts w) : (array element).report? v = (array element).report? w := by
  cases h with
  | array h =>
    refine Option.ext fun report => ?_
    rw [report?_array_eq_some_iff, report?_array_eq_some_iff]
    refine and_congr_left fun _ => forall_mem_iff_of_forall₂ h fun x? hx? y? hy? hslot => ?_
    refine forall_mem_iff_of_rel hslot fun x hx y hy hxy => ?_
    have left : x.DistinctKeys := hv.part (List.reduceOption_mem_iff.2 (hx ▸ hx?))
    have right : y.DistinctKeys := hw.part (List.reduceOption_mem_iff.2 (hy ▸ hy?))
    rw [hs x y left right hxy]
  | _ => rfl

theorem report?_set (hs : element.RespectsEquality) (hv : v.DistinctKeys) (hw : w.DistinctKeys)
    (h : v.EqualByParts w) : (set element).report? v = (set element).report? w := by
  cases h with
  | set h =>
    refine Option.ext fun report => ?_
    rw [report?_set_eq_some_iff, report?_set_eq_some_iff]
    refine and_congr_left fun _ => forall_mem_iff_of_forall₂ h fun x hx y hy hxy => ?_
    rw [hs x y (hv.part hx) (hw.part hy) hxy]
  | _ => rfl

theorem report?_map (hkey : key.RespectsEquality) (hvalue : value.RespectsEquality)
    (hv : v.DistinctKeys) (hw : w.DistinctKeys) (h : v.EqualByParts w) :
    (map key value).report? v = (map key value).report? w := by
  cases h with
  | map h =>
    refine Option.ext fun report => ?_
    rw [report?_map_eq_some_iff, report?_map_eq_some_iff]
    refine and_congr_left fun _ => forall_mem_iff_of_forall₂ h fun x hx y hy hxy => ?_
    have left : ∀ u ∈ [x.1, x.2], u.DistinctKeys := fun u hu =>
      hv.part (List.mem_flatMap.2 ⟨x, hx, hu⟩)
    have right : ∀ u ∈ [y.1, y.2], u.DistinctKeys := fun u hu =>
      hw.part (List.mem_flatMap.2 ⟨y, hy, hu⟩)
    rw [hkey x.1 y.1 (left _ (by simp)) (right _ (by simp)) hxy.1,
      hvalue x.2 y.2 (left _ (by simp)) (right _ (by simp)) hxy.2]
  | _ => rfl

theorem report?_of_constraint? {c : Constraint Shape} (hc : s.constraint? = some c)
    (hparts : ∀ t ∈ c.parts, t.RespectsEquality) (hv : v.DistinctKeys) (hw : w.DistinctKeys)
    (h : v.EqualByParts w) : s.report? v = s.report? w := by
  refine Option.ext fun report => ?_
  rw [Shape.report?_of_constraint? hc, Shape.report?_of_constraint? hc]
  obtain ⟨hxs, hys⟩ | ⟨xs, ys, hxs, hys, hagree⟩ := h.record?_cases
  · simp [hxs, hys]
  · simp only [hxs, hys, Option.some.injEq, exists_eq_left',
      Constraint.holdsOn_iff_of_agree hparts hv hw hxs hys hagree]

end RespectsEquality

/-- If its tests give equal values equal answers, a shape reports the same keys of equal values. -/
theorem report?_eq_of_equal (hs : s.Throughout TestRespectsEquality) (hv : v.DistinctKeys)
    (hw : w.DistinctKeys) (hequal : v.Equal w) : s.report? v = s.report? w := by
  induction s using induction_on_parts generalizing v w with
  | step s ih =>
    have h := Value.equalByParts_of_equal hv hw hequal
    have ofPart {t : Shape} (ht : t ∈ s.parts) : t.report? v = t.report? w :=
      ih t ht (hs.part ht) hv hw hequal
    -- Values inside are settled, so that of the parts only their acceptance is asked.
    have respects {t : Shape} (ht : t ∈ s.parts) : t.RespectsEquality := by
      intro x y hx hy hxy
      exact accepts_eq_of_report?_eq (Value.equalByParts_of_equal hx hy hxy)
        (ih t ht (hs.part ht) hx hy hxy)
    cases s with
    | record | dict | merged =>
      exact RespectsEquality.report?_of_constraint? rfl
        (fun t ht => respects (mem_parts_of_constraint? rfl ht)) hv hw h
    | commented text inner => exact ofPart (t := inner) (by simp [parts])
    | union left right | inter left right =>
      have hleft : left.report? v = left.report? w := ofPart (by simp [parts])
      have hright : right.report? v = right.report? w := ofPart (by simp [parts])
      simp only [report?_union, report?_inter, hleft, hright]
    | array element => exact (respects (by simp [parts])).report?_array hv hw h
    | set element => exact (respects (by simp [parts])).report?_set hv hw h
    | map key value =>
      exact (respects (by simp [parts])).report?_map (respects (by simp [parts])) hv hw h
    | any | never => rfl
    | literal l =>
      refine report?_eq_of_checkLeaf (fun _ => rfl) ?_
      simp only [leafFault, h.literal_accepts_eq l]
    | tagged tag =>
      refine report?_eq_of_checkLeaf (fun _ => rfl) ?_
      simp only [leafFault, h.tag_eq]
    | instanceOf cls =>
      refine report?_eq_of_checkLeaf (fun _ => rfl) ?_
      simp only [leafFault, h.class?_eq]
    | guarded name test =>
      have htest : test v = test w := hs.here v w hv hw hequal
      refine report?_eq_of_checkLeaf (fun _ => rfl) ?_
      simp only [leafFault, htest]
    | validation description test =>
      have htest : test v = .holds ↔ test w = .holds := hs.here v w hv hw hequal
      have hnone (u : Value) :
          (validation description test).leafFault u = none ↔ test u = .holds := by
        rw [leafFault]
        cases test u <;> simp
      exact report?_eq_of_checkLeaf (fun _ => rfl) ((hnone v).trans (htest.trans (hnone w).symm))

/-- Equal values are accepted alike and tracked alike, and where they are accepted their slices are
equal, if tests give equal values equal answers. -/
theorem equal_values_checked_alike (hs : s.Throughout TestRespectsEquality) (hv : v.DistinctKeys)
    (hw : w.DistinctKeys) (hequal : v.equals w = true) :
    s.accepts v = s.accepts w ∧ (s.track v).toOption = (s.track w).toOption
      ∧ (s.accepts v = true → ∃ v' w', s.slice v = .ok v' ∧ s.slice w = .ok w'
        ∧ v'.equals w' = true) := by
  have h := Value.equalByParts_of_equal hv hw hequal
  have hreports := report?_eq_of_equal hs hv hw hequal
  have haccepts := accepts_eq_of_report?_eq h hreports
  refine ⟨haccepts, by rw [toOption_track, toOption_track, hreports], fun hok => ?_⟩
  by_cases hhybrid : s.IsHybrid
  · obtain ⟨r, d, hc⟩ := hhybrid
    obtain ⟨v', hslice⟩ := exists_slice_eq_ok_iff.2 (accepts_iff.1 hok)
    obtain ⟨w', hslice'⟩ := exists_slice_eq_ok_iff.2 (accepts_iff.1 (haccepts ▸ hok))
    obtain ⟨xs, hxs, -, rfl⟩ := (slice_of_isHybrid hc).1 hslice
    obtain ⟨ys, hys, -, rfl⟩ := (slice_of_isHybrid hc).1 hslice'
    refine ⟨_, _, hslice, hslice', (Value.equal_object_iff ?_ ?_).2 ?_⟩
    · exact nodup_keys_arrange (hv.here hxs) _
    · exact nodup_keys_arrange (hw.here hys) _
    · exact (h.entriesAgree hxs hys).arrange _
  · obtain ⟨report, hreport, -⟩ := accepts_iff_report?.1 hok
    refine ⟨_, _, slice_of_accepts hhybrid hok hreport, ?_, report.project_equal hequal h⟩
    exact slice_of_accepts hhybrid (haccepts ▸ hok) (hreports ▸ hreport)

/-- The entries stand in another order, and the zeros have different signs. -/
theorem equal_values_checked_alike_zeros :
    ∃ v' w',
      ((openRecord [("a", ⟨literal (.number .zero), .required⟩)]).and
          (dictOf (guarded "defined" fun x => !x.isUndefined))).slice
          (.ofEntries [("b", .null), ("a", .number (.ofParts true 0))]) = .ok v'
        ∧ ((openRecord [("a", ⟨literal (.number .zero), .required⟩)]).and
          (dictOf (guarded "defined" fun x => !x.isUndefined))).slice
          (.ofEntries [("a", .number .zero), ("b", .null)]) = .ok w'
        ∧ v'.equals w' = true := by
  have hliteral : (literal (.number .zero)).Throughout TestRespectsEquality :=
    Throughout.iff_parts.2 ⟨trivial, by simp [parts]⟩
  have hdefined : (guarded "defined" fun x => !x.isUndefined).Throughout TestRespectsEquality := by
    refine Throughout.iff_parts.2 ⟨fun x y hx hy h => ?_, by simp [parts]⟩
    show (!x.isUndefined) = !y.isUndefined
    rw [(Value.equalByParts_of_equal hx hy h).isUndefined_eq]
  have hrecord : (openRecord [("a", ⟨literal (.number .zero), .required⟩)]).Throughout
      TestRespectsEquality :=
    Throughout.iff_parts.2 ⟨trivial, List.forall_mem_singleton.2 hliteral⟩
  have hdict : (dictOf (guarded "defined" fun x => !x.isUndefined)).Throughout
      TestRespectsEquality :=
    Throughout.iff_parts.2 ⟨trivial, List.forall_mem_singleton.2 hdefined⟩
  have hnull : Value.null.DistinctKeys := .of_parts_eq_nil rfl rfl
  have hzero (x : Double) : (Value.number x).DistinctKeys := .of_parts_eq_nil rfl rfl
  have hv : (Value.ofEntries [("b", .null), ("a", .number (.ofParts true 0))]).DistinctKeys :=
    .ofEntries (by simp [hnull, hzero])
  have hw : (Value.ofEntries [("a", .number .zero), ("b", .null)]).DistinctKeys :=
    .ofEntries (by simp [hnull, hzero])
  have hs := hrecord.and keptByAnd_testRespectsEquality hdict
  exact (equal_values_checked_alike hs hv hw (by decide +kernel)).2.2 (by decide +kernel)

end Shape

end ShapeCheck
