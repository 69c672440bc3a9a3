import ShapeCheck.Proofs.Built
import ShapeCheck.Proofs.EntryPoints
import ShapeCheck.Proofs.Matching

/-!
# Slices of slices

A slice keeps the known keys of a record, and whatever tracked those keys tracks the slice: a shape
without tests reports of every slice that it makes. It need not report the same. A branch of a union
may have refused the record for a key that the slice has lost, and then the union follows that
branch when it is asked about the slice. As long as every union follows the branch that it followed
before, slicing a slice changes nothing.
-/

namespace ShapeCheck

namespace KeyReport

/-- What is selected depends on the entries under the selected keys only. -/
theorem select_congr {entries more : List (String × Value)} {keys : List String}
    (h : ∀ key ∈ keys, Entries.get? entries key = Entries.get? more key) :
    select entries keys = select more keys := by
  refine List.filterMap_congr fun key hkey => ?_
  rw [h key (List.mem_eraseDups.1 hkey)]

theorem select_select (entries : List (String × Value)) (keys : List String) :
    select (select entries keys) keys = select entries keys := by
  refine select_congr fun key hkey => ?_
  rw [get?_select, if_pos hkey]

theorem project_of_record {report : KeyReport} {v : Value} {known : List String}
    {entries : List (String × Value)} (hknown : report.known = some known)
    (hv : v.record? = some entries) : report.project v = .object (select entries known) := by
  simp only [project, hknown, hv]

/-- A report changes values of which it knows keys, and only records. -/
theorem project_eq_self_or (report : KeyReport) (v : Value) :
    report.project v = v
      ∨ ∃ known entries, report.known = some known ∧ v.record? = some entries := by
  unfold project
  cases hknown : report.known with
  | none => exact .inl rfl
  | some known =>
    cases hv : v.record? with
    | none => exact .inl rfl
    | some entries => exact .inr ⟨known, entries, rfl, rfl⟩

/-- Of what a report keeps it forbids nothing. -/
theorem forbidden_project {report : KeyReport} {v : Value} (h : report.forbidden v = []) :
    report.forbidden (report.project v) = [] := by
  obtain heq | ⟨known, entries, hknown, hv⟩ := report.project_eq_self_or v
  · rwa [heq]
  · have hkept : ∀ entry ∈ select entries known, entry.1 ∈ known :=
      fun entry hentry => (mem_select_iff.1 hentry).1
    cases hexact : report.exact with
    | false => exact forbidden_of_not_exact hexact
    | true =>
      rw [project_of_record hknown hv]
      simpa [forbidden, hexact, hknown] using fun key x hmem => hkept (key, x) hmem

theorem project_project (report : KeyReport) (v : Value) :
    report.project (report.project v) = report.project v := by
  obtain heq | ⟨known, entries, hknown, hv⟩ := report.project_eq_self_or v
  · rw [heq, heq]
  · rw [project_of_record hknown hv, project_of_record hknown rfl, select_select]

theorem known_both_eq_some_iff {a b : KeyReport} {known : List String} :
    (a.both b).known = some known ↔
      ∃ keys more, a.known = some keys ∧ b.known = some more ∧ keys ++ more = known := by
  obtain ⟨ka, ea⟩ := a
  obtain ⟨kb, eb⟩ := b
  cases ka <;> cases kb <;> simp [both]

end KeyReport

/-- Without a dictionary a constraint reads the entries under its names. -/
theorem Constraint.holdsOn_congr {c : Constraint Shape} (hdict : c.dict? = none)
    {entries more : List (String × Value)}
    (agree : ∀ name ∈ Entries.keys c.fields, Entries.get? entries name = Entries.get? more name) :
    c.HoldsOn entries ↔ c.HoldsOn more := by
  rw [holdsOn_iff, holdsOn_iff]
  refine and_congr (forall₂_congr fun field hfield => ?_) (by simp [hdict])
  rw [agree field.1 (Entries.mem_keys_of_mem hfield)]

namespace Shape

theorem get?_arrange (names : List String) (entries : List (String × Value)) (key : String) :
    Entries.get? (arrange names entries) key = Entries.get? entries key := by
  rw [arrange, Entries.get?_append, KeyReport.get?_select,
    Entries.get?_filter fun name => !names.contains name]
  by_cases hkey : key ∈ names <;> simp [hkey]

theorem mem_of_mem_arrange {names : List String} {entries : List (String × Value)}
    {entry : String × Value} (h : entry ∈ arrange names entries) : entry ∈ entries := by
  obtain h | h := List.mem_append.1 h
  · exact Entries.mem_of_get? (KeyReport.mem_select_iff.1 h).2
  · exact (List.mem_filter.1 h).1

/-- Entries that are arranged stay where they are. -/
theorem arrange_arrange (names : List String) (entries : List (String × Value)) :
    arrange names (arrange names entries) = arrange names entries := by
  have hselect : KeyReport.select (arrange names entries) names = KeyReport.select entries names :=
    KeyReport.select_congr fun key _ => get?_arrange names entries key
  have hnone : (KeyReport.select entries names).filter (fun entry => !names.contains entry.1)
      = [] := by
    rw [List.filter_eq_nil_iff]
    intro entry hentry
    simp [(KeyReport.mem_select_iff.1 hentry).1]
  rw [arrange, hselect, arrange, List.filter_append, hnone, List.filter_filter]
  simp

variable {s : Shape} {v w : Value}

@[simp] theorem slice_bare (s : Shape) (v : Value) : s.bare.slice v = s.slice v :=
  apply_bare (f := fun s => s.slice v) (fun _ _ => rfl) s

/-- Comments apart, a merged shape with fields and a dictionary, which has a slice of its own. -/
def IsHybrid (s : Shape) : Prop := ∃ r d, s.bare.constraint? = some (.both r d)

theorem not_isHybrid_of_constraint?_bare (h : s.bare.constraint? = none) : ¬s.IsHybrid := by
  rintro ⟨r, d, hc⟩
  rw [h] at hc
  cases hc

theorem project_eq_ok_iff :
    s.project v = .ok w ↔
      ∃ report, s.report? v = some report ∧ report.forbidden v = [] ∧ report.project v = w := by
  constructor
  · intro h
    rw [project] at h
    cases htrack : s.track v with
    | error failure =>
      simp only [htrack] at h
      cases h
    | ok report =>
      simp only [htrack] at h
      cases henforce : report.enforce s v with
      | error failure =>
        simp only [henforce] at h
        cases h
      | ok _ =>
        simp only [henforce] at h
        cases h
        exact ⟨report, track_eq_ok_iff.1 htrack, KeyReport.enforce_eq_ok_iff.1 henforce, rfl⟩
  · rintro ⟨report, hreport, hkeys, rfl⟩
    exact project_of_report? hreport hkeys

/-- A shape that knows no keys of a value keeps all of it. -/
theorem copy_eq_ok_iff (h : ∀ report, s.report? v = some report → report = .untracked) :
    s.copy v = .ok w ↔
      ∃ report, s.report? v = some report ∧ report.forbidden v = [] ∧ report.project v = w := by
  have haccepts : s.copy v = .ok w ↔ s.accepts v = true ∧ v = w := by
    rw [accepts_iff, copy]
    cases s.check v <;> simp
  rw [haccepts, accepts_iff_report?]
  constructor
  · rintro ⟨⟨report, hreport, hkeys⟩, rfl⟩
    refine ⟨report, hreport, hkeys, ?_⟩
    rw [h report hreport, KeyReport.project_untracked]
  · rintro ⟨report, hreport, hkeys, rfl⟩
    refine ⟨⟨report, hreport, hkeys⟩, ?_⟩
    rw [h report hreport, KeyReport.project_untracked]

/-- But for merged shapes with fields and a dictionary, a slice is what the report of keys keeps. -/
theorem slice_eq_ok_iff (h : ¬s.IsHybrid) :
    s.slice v = .ok w ↔
      ∃ report, s.report? v = some report ∧ report.forbidden v = [] ∧ report.project v = w := by
  induction s using induction_on_parts with
  | step s ih =>
    cases s with
    | commented text inner => exact ih inner (by simp [parts]) h
    | record | union | inter => exact project_eq_ok_iff
    | merged left right c =>
      cases c with
      | record | dict => exact project_eq_ok_iff
      | both r d => exact absurd ⟨r, d, rfl⟩ h
    | dict d =>
      refine copy_eq_ok_iff fun report hreport => ?_
      obtain ⟨_, _, _, hr⟩ := (report?_of_constraint? rfl).1 hreport
      exact hr
    | _ => exact copy_eq_ok_iff fun report hreport => report?_eq_untracked rfl hreport

theorem slice_of_accepts (h : ¬s.IsHybrid) (hok : s.accepts v = true) {report : KeyReport}
    (hreport : s.report? v = some report) : s.slice v = .ok (report.project v) := by
  obtain ⟨other, hother, hkeys⟩ := accepts_iff_report?.1 hok
  cases hreport.symm.trans hother
  exact (slice_eq_ok_iff h).2 ⟨report, hreport, hkeys, rfl⟩

/-- A merged shape with fields and a dictionary keeps all entries of a record. -/
theorem slice_of_isHybrid {r : RecordShape Shape} {d : DictShape Shape}
    (h : s.bare.constraint? = some (.both r d)) :
    s.slice v = .ok w ↔
      ∃ entries, v.record? = some entries ∧ (Constraint.both r d).HoldsOn entries
        ∧ .object (arrange (Entries.keys r.fields) entries) = w := by
  have haccepts : s.bare.accepts v = true ↔
      ∃ entries, v.record? = some entries ∧ (Constraint.both r d).HoldsOn entries := by
    rw [accepts_of_constraint? h]
    simp [Constraint.report, KeyReport.forbidden_of_not_exact, KeyReport.untracked]
  rw [← slice_bare]
  constructor
  · intro hslice
    have hok : s.bare.accepts v = true := accepts_iff.2 (exists_slice_eq_ok_iff.1 ⟨w, hslice⟩)
    obtain ⟨entries, hv, hholds⟩ := haccepts.1 hok
    rw [slice_of_constraint? h hv hok] at hslice
    cases hslice
    exact ⟨entries, hv, hholds, rfl⟩
  · rintro ⟨entries, hv, hholds, rfl⟩
    exact slice_of_constraint? h hv (haccepts.2 ⟨entries, hv, hholds⟩)

/-- Whether a shape asks a test of the caller's. -/
def isTest : Shape → Bool
  | guarded _ _ => true
  | validation _ _ => true
  | _ => false

/-- No test stands anywhere inside. -/
def Testless (s : Shape) : Prop := s.Throughout fun t => t.isTest = false

theorem Testless.of_parts (h : s.isTest = false) (hparts : ∀ t ∈ s.parts, t.Testless) :
    s.Testless :=
  Throughout.iff_parts.2 ⟨h, hparts⟩

theorem Testless.isValidation (h : s.Testless) : s.isValidation = false := by
  induction s using induction_on_parts with
  | step s ih =>
    cases s with
    | commented text inner => exact ih inner (by simp [parts]) (h.part (by simp [parts]))
    | validation description test => cases h.here
    | _ => rfl

/-- Whether the unions that lead to a report of `v` lead the same way for `w`: the branches in front
of the one that is followed, which refuse `v`, all refuse `w` too. -/
def SameBranches : Shape → Value → Value → Prop
  | union left right, v, w =>
    (left.Matches v → left.SameBranches v w)
      ∧ (¬left.Matches v → ¬left.Matches w ∧ right.SameBranches v w)
  | inter left right, v, w => left.SameBranches v w ∧ right.SameBranches v w
  | commented _ inner, v, w => inner.SameBranches v w
  | _, _, _ => True

/-- Whether a shape goes on reporting from one record to another: where the other one has the same
entries under the keys that are known in the first, it is reported of as well, and in the same way
unless a union has come to another branch. -/
def Resumes (s : Shape) (v w : Value) : Prop :=
  ∀ report known entries kept, s.report? v = some report → report.known = some known →
    v.record? = some entries → w.record? = some kept →
    (∀ key ∈ known, Entries.get? kept key = Entries.get? entries key) →
    ∃ again, s.report? w = some again ∧ (s.SameBranches v w → again = report)

namespace Resumes

variable {left right : Shape}

theorem of_untracked (h : ∀ report, s.report? v = some report → report = .untracked) :
    s.Resumes v w := by
  intro report known _ _ hreport hknown
  rw [h report hreport] at hknown
  cases hknown

theorem of_constraint? {c : Constraint Shape} (hc : s.constraint? = some c) : s.Resumes v w := by
  intro report known entries kept hreport hknown hv hw agree
  obtain ⟨entries', hv', hholds, rfl⟩ := (report?_of_constraint? hc).1 hreport
  cases hv.symm.trans hv'
  cases c with
  | record r =>
    cases hknown
    have hkept := (Constraint.holdsOn_congr (c := .record r) rfl agree).2 hholds
    exact ⟨_, (report?_of_constraint? hc).2 ⟨kept, hw, hkept, rfl⟩, fun _ => rfl⟩
  | dict | both => cases hknown

theorem union (hl : left.Resumes v w) (hr : right.Resumes v w) :
    (Shape.union left right).Resumes v w := by
  intro report known entries kept hreport hknown hv hw agree
  rw [report?_union, Option.or_eq_some_iff] at hreport
  rw [report?_union]
  obtain hreport | ⟨hnone, hreport⟩ := hreport
  · obtain ⟨again, hagain, hsame⟩ := hl report known entries kept hreport hknown hv hw agree
    refine ⟨again, by rw [hagain, Option.some_or], fun hbranches => hsame ?_⟩
    exact hbranches.1 ⟨_, hreport⟩
  · obtain ⟨again, hagain, hsame⟩ := hr report known entries kept hreport hknown hv hw agree
    -- The left branch refused `v`; what it says of `w` decides which report is taken.
    have hrefused : ¬left.Matches v := by
      rintro ⟨_, hmatch⟩
      simp [hnone] at hmatch
    cases hawake : left.report? w with
    | some other =>
      refine ⟨other, by rw [Option.some_or], fun hbranches => ?_⟩
      exact absurd ⟨other, hawake⟩ (hbranches.2 hrefused).1
    | none =>
      refine ⟨again, by rw [hagain, Option.none_or], fun hbranches => hsame ?_⟩
      exact (hbranches.2 hrefused).2

theorem inter (hvl : left.isValidation = false) (hvr : right.isValidation = false)
    (hl : left.Resumes v w) (hr : right.Resumes v w) :
    (Shape.inter left right).Resumes v w := by
  intro report known entries kept hreport hknown hv hw agree
  have hsides (a b : KeyReport) : reportOfSides left right a b = a.both b := by
    simp [reportOfSides, hvl, hvr]
  obtain ⟨a, b, ha, hb, rfl⟩ := report?_inter_eq_some_iff.1 hreport
  rw [hsides] at hknown ⊢
  obtain ⟨knownA, knownB, hknownA, hknownB, rfl⟩ := KeyReport.known_both_eq_some_iff.1 hknown
  obtain ⟨againA, hagainA, hsameA⟩ := hl a knownA entries kept ha hknownA hv hw
    fun key hkey => agree key (List.mem_append_left _ hkey)
  obtain ⟨againB, hagainB, hsameB⟩ := hr b knownB entries kept hb hknownB hv hw
    fun key hkey => agree key (List.mem_append_right _ hkey)
  refine ⟨againA.both againB, ?_, ?_⟩
  · exact report?_inter_eq_some_iff.2 ⟨againA, againB, hagainA, hagainB, hsides _ _⟩
  · rintro ⟨hbranchesA, hbranchesB⟩
    rw [hsameA hbranchesA, hsameB hbranchesB]

end Resumes

/-- A shape without tests goes on reporting. -/
theorem Testless.resumes (hs : s.Testless) : s.Resumes v w := by
  induction s using induction_on_parts with
  | step s ih =>
    have ofPart {t : Shape} (ht : t ∈ s.parts) : t.Resumes v w := ih t ht (hs.part ht)
    cases s with
    | record | dict | merged => exact .of_constraint? rfl
    | commented text inner =>
      have hinner : inner.Resumes v w := ofPart (by simp [parts])
      exact hinner
    | union left right => exact .union (ofPart (by simp [parts])) (ofPart (by simp [parts]))
    | inter left right =>
      exact .inter (Testless.isValidation (hs.part (by simp [parts])))
        (Testless.isValidation (hs.part (by simp [parts])))
        (ofPart (by simp [parts])) (ofPart (by simp [parts]))
    | _ => exact .of_untracked fun report hreport => report?_eq_untracked rfl hreport

/-- A shape reports of what its report of a value keeps. -/
theorem exists_report?_project (hs : s.Testless) {report : KeyReport}
    (h : s.report? v = some report) :
    ∃ again, s.report? (report.project v) = some again
      ∧ (s.SameBranches v (report.project v) → again = report) := by
  obtain heq | ⟨known, entries, hknown, hv⟩ := report.project_eq_self_or v
  · rw [heq]
    exact ⟨report, h, fun _ => rfl⟩
  · have hkept := congrArg Value.record? (KeyReport.project_of_record hknown hv)
    refine hs.resumes report known entries _ h hknown hv hkept fun key hkey => ?_
    rw [KeyReport.get?_select, if_pos hkey]

theorem holdsOn_arrange {c : Constraint Shape} {entries : List (String × Value)}
    (h : c.HoldsOn entries) (names : List String) : c.HoldsOn (arrange names entries) where
  fields field hfield := by
    rw [get?_arrange]
    exact h.fields field hfield
  values d hd entry hentry := h.values d hd entry (mem_of_mem_arrange hentry)

theorem accepts_of_slice (h : s.slice v = .ok w) : s.accepts v = true :=
  accepts_iff.2 (exists_slice_eq_ok_iff.1 ⟨w, h⟩)

/-- A shape without tests tracks the keys of every slice that it makes. It accepts the slice and
leaves it as it is exactly if what it tracks permits all keys of the slice and keeps them, and that
is so unless a branch of a union that refused the value takes the slice. -/
theorem slice_again (hs : s.Testless) (h : s.slice v = .ok w) :
    ∃ report, s.track w = .ok report
      ∧ (s.accepts w = true ∧ s.slice w = .ok w ↔ report.Permits w ∧ report.project w = w)
      ∧ (s.SameBranches v w → s.accepts w = true ∧ s.slice w = .ok w) := by
  by_cases hhybrid : s.IsHybrid
  · obtain ⟨r, d, hc⟩ := hhybrid
    obtain ⟨entries, hv, hholds, rfl⟩ := (slice_of_isHybrid hc).1 h
    have hagain := holdsOn_arrange hholds (Entries.keys r.fields)
    have hslice : s.slice (.object (arrange (Entries.keys r.fields) entries))
        = .ok (.object (arrange (Entries.keys r.fields) entries)) :=
      (slice_of_isHybrid hc).2 ⟨_, Value.record?_object _, hagain, by rw [arrange_arrange]⟩
    have hreport := (report?_of_constraint? hc).2 ⟨_, Value.record?_object _, hagain, rfl⟩
    rw [report?_bare] at hreport
    refine ⟨_, track_eq_ok_iff.2 hreport, ?_, fun _ => ⟨accepts_of_slice hslice, hslice⟩⟩
    exact iff_of_true ⟨accepts_of_slice hslice, hslice⟩ ⟨.inl rfl, KeyReport.project_untracked _⟩
  · obtain ⟨report, hreport, hkeys, rfl⟩ := (slice_eq_ok_iff hhybrid).1 h
    obtain ⟨again, hagain, hsame⟩ := exists_report?_project hs hreport
    have hiff : s.slice (report.project v) = .ok (report.project v)
        ↔ again.Permits (report.project v)
          ∧ again.project (report.project v) = report.project v := by
      rw [slice_eq_ok_iff hhybrid, hagain, KeyReport.permits_iff]
      simp
    have haccepts : s.accepts (report.project v) = true
        ∧ s.slice (report.project v) = .ok (report.project v)
        ↔ s.slice (report.project v) = .ok (report.project v) :=
      and_iff_right_of_imp accepts_of_slice
    refine ⟨again, track_eq_ok_iff.2 hagain, haccepts.trans hiff, fun hbranches => ?_⟩
    rw [haccepts, hiff, hsame hbranches, KeyReport.permits_iff]
    exact ⟨KeyReport.forbidden_project hkeys, KeyReport.project_project report v⟩

theorem slice_again_second_branch :
    ((exactRecord [("k", ⟨any, .required⟩)]).or (openRecord [("x", ⟨any, .required⟩)])).slice
        (.object [("y", .null), ("x", .null)]) = .ok (.object [("x", .null)])
      ∧ ((exactRecord [("k", ⟨any, .required⟩)]).or (openRecord [("x", ⟨any, .required⟩)])).slice
        (.object [("x", .null)]) = .ok (.object [("x", .null)]) := by
  have hany : any.Testless := .of_parts rfl (List.forall_mem_nil _)
  have hfields (name : String) (exact : Bool) :
      (ofFields [(name, ⟨any, .required⟩)] exact).Testless :=
    .of_parts rfl (List.forall_mem_singleton.2 hany)
  have hs : ((exactRecord [("k", ⟨any, .required⟩)]).or
      (openRecord [("x", ⟨any, .required⟩)])).Testless :=
    .of_parts rfl (List.forall_mem_cons.2 ⟨hfields _ _, List.forall_mem_singleton.2 (hfields _ _)⟩)
  have hslice : ((exactRecord [("k", ⟨any, .required⟩)]).or
      (openRecord [("x", ⟨any, .required⟩)])).slice (.object [("y", .null), ("x", .null)])
      = .ok (.object [("x", .null)]) := rfl
  obtain ⟨report, -, -, hsame⟩ := slice_again hs hslice
  refine ⟨hslice, (hsame ⟨?_, ?_⟩).2⟩
  · rintro ⟨_, hmatch⟩
    cases hmatch
  · intro _
    refine ⟨?_, trivial⟩
    rintro ⟨_, hmatch⟩
    cases hmatch

/-- A slice may have lost the key for which an exact record shape in front refused the value. Then
the union follows that shape and forbids the keys that it does not know. -/
theorem not_slice_again :
    ¬ ∀ s : Shape, s.Built → s.Testless → ∀ v w, s.slice v = .ok w →
      s.accepts w = true ∧ s.slice w = .ok w := by
  intro h
  have hs : ((exactRecord [("x", ⟨tagged .number, .allowMissing⟩)]).or
      (openRecord [("k", ⟨any, .required⟩)])).Testless := by
    refine .of_parts rfl (List.forall_mem_cons.2 ⟨?_, List.forall_mem_singleton.2 ?_⟩)
    · exact .of_parts rfl (List.forall_mem_singleton.2 (.of_parts rfl (List.forall_mem_nil _)))
    · exact .of_parts rfl (List.forall_mem_singleton.2 (.of_parts rfl (List.forall_mem_nil _)))
  have hbuilt : ((exactRecord [("x", ⟨tagged .number, .allowMissing⟩)]).or
      (openRecord [("k", ⟨any, .required⟩)])).Built :=
    .or (.fields true (by simpa using .tagged .number)) (.fields false (by simpa using .any))
  have hagain := h _ hbuilt hs (.object [("x", .null), ("k", .null)]) (.object [("k", .null)]) rfl
  have hfalse := hagain.1
  contradiction

end Shape

end ShapeCheck
