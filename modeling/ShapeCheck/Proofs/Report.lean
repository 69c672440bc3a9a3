import ShapeCheck.Check
import ShapeCheck.Proofs.Parts

/-!
# What a shape reports of a value it accepts

Most laws about acceptance and keys do not ask why a value was refused. `Shape.report?` keeps the
report of known keys and forgets refusals, and this module describes it shape by shape, so that the
checks of single fields, entries and sides need not be opened again. A shape that constrains records
is described once for its constraint, whichever of the four kinds of shape it is.
-/

namespace ShapeCheck

/-- Whether the value under the name of a field, or its absence, is what the field asks for. -/
def Field.Admits (f : Field Shape) : Option Value → Prop
  | none => f.presence ≠ .required
  | some x => f.presence = .optional ∧ x.isUndefined = true ∨ f.shape.accepts x = true

namespace Constraint

/-- Whether the entries of a record are what a constraint asks for, its keys apart. -/
structure HoldsOn (c : Constraint Shape) (entries : List (String × Value)) : Prop where
  fields : ∀ field ∈ c.fields, field.2.Admits (Entries.get? entries field.1)
  values : ∀ d, c.dict? = some d → ∀ entry ∈ entries, d.value.accepts entry.2 = true

theorem holdsOn_iff {c : Constraint Shape} {entries : List (String × Value)} :
    c.HoldsOn entries ↔
      (∀ field ∈ c.fields, field.2.Admits (Entries.get? entries field.1))
        ∧ ∀ d, c.dict? = some d → ∀ entry ∈ entries, d.value.accepts entry.2 = true :=
  ⟨fun h => ⟨h.fields, h.values⟩, fun h => ⟨h.1, h.2⟩⟩

/-- Where every name comes once, a constraint is looked at name by name. -/
theorem holdsOn_iff_get? {c : Constraint Shape} (h : (Entries.keys c.fields).Nodup)
    {entries : List (String × Value)} :
    c.HoldsOn entries ↔
      (∀ name f, Entries.get? c.fields name = some f → f.Admits (Entries.get? entries name))
        ∧ ∀ d, c.dict? = some d → ∀ entry ∈ entries, d.value.accepts entry.2 = true := by
  rw [holdsOn_iff]
  refine and_congr_left fun _ => ?_
  simp only [Entries.get?_eq_some_iff h, Prod.forall]

/-- What a constraint reports of a record it holds on. With a dictionary every key is allowed. -/
def report (c : Constraint Shape) : KeyReport :=
  match c.record?, c.dict? with
  | some r, none => ⟨some (Entries.keys r.fields), r.exact⟩
  | _, _ => .untracked

end Constraint

namespace Shape

/-- The keys that a shape knows in a value it accepts up to its keys. -/
def report? (s : Shape) (v : Value) : Option KeyReport := (s.judge v).toOption

/-- The report of the two sides of an intersection. A validation leaves it to the other side. -/
def reportOfSides (left right : Shape) (a b : KeyReport) : KeyReport :=
  if left.isValidation then b else if right.isValidation then a else a.both b

theorem reportOfSides_cases (left right : Shape) (a b : KeyReport) :
    reportOfSides left right a b = a ∨ reportOfSides left right a b = b
      ∨ reportOfSides left right a b = a.both b := by
  unfold reportOfSides
  split
  · exact .inr (.inl rfl)
  · split
    · exact .inl rfl
    · exact .inr (.inr rfl)

theorem report?_eq_some_iff {s : Shape} {v : Value} {report : KeyReport} :
    s.report? v = some report ↔ s.judge v = .ok report := by
  unfold report?
  cases s.judge v <;> simp [Except.toOption]

theorem track_eq_ok_iff {s : Shape} {v : Value} {report : KeyReport} :
    s.track v = .ok report ↔ s.report? v = some report := by
  rw [report?_eq_some_iff, track]
  cases s.judge v <;> simp

theorem toOption_track (s : Shape) (v : Value) : (s.track v).toOption = s.report? v := by
  rw [track, report?]
  cases s.judge v <;> rfl

@[simp] theorem settle_untrackedIf (s : Shape) (v : Value) (outcome : Except Failure Unit) :
    settle s v (untrackedIf outcome) = outcome := by
  cases outcome <;> rfl

/-- The kinds of shapes that are checked as they are agree with their reports, and so the parts of a
value are checked like the value itself. -/
theorem check_eq_settle (s : Shape) (v : Value) : s.check v = settle s v (s.judge v) := by
  induction s using induction_on_parts generalizing v with
  | step s ih =>
    -- Parts are handed over as functions, so the hypothesis is needed for the whole function.
    have ofParts {t : Shape} (ht : t ∈ s.parts) : t.check = fun x => settle t x (t.judge x) :=
      funext (ih t ht)
    cases s with
    | array element | set element =>
      rw [judge, settle_untrackedIf, check, ofParts (by simp [parts])]
    | map key value =>
      rw [judge, settle_untrackedIf, check, ofParts (by simp [parts]), ofParts (by simp [parts])]
    | dict d =>
      obtain ⟨keyName, value⟩ := d
      rw [judge, settle_untrackedIf, check, checkDict, ofParts (by simp [parts, Constraint.parts])]
    | commented text inner => exact ih inner (by simp [parts]) v
    | record | union | inter | merged => rfl
    | _ => exact (settle_untrackedIf _ v _).symm

theorem accepts_eq_false_iff {s : Shape} {v : Value} :
    s.accepts v = false ↔ ∃ failure, s.check v = .error failure := by
  rw [accepts]
  cases s.check v <;> simp

/-- A value is accepted where its report forbids none of its keys. -/
theorem accepts_iff_report? {s : Shape} {v : Value} :
    s.accepts v = true ↔ ∃ report, s.report? v = some report ∧ report.forbidden v = [] := by
  rw [accepts_iff, check_eq_settle, report?]
  cases s.judge v with
  | ok report => simp [settle, Except.toOption, KeyReport.enforce_eq_ok_iff]
  | error refusal => simp [settle, Except.toOption]

@[simp] theorem report?_commented (text : String) (s : Shape) (v : Value) :
    (commented text s).report? v = s.report? v := rfl

@[simp] theorem judge_bare (s : Shape) (v : Value) : s.bare.judge v = s.judge v :=
  apply_bare (f := fun s => s.judge v) (fun _ _ => rfl) s

@[simp] theorem report?_bare (s : Shape) (v : Value) : s.bare.report? v = s.report? v :=
  apply_bare (f := fun s => s.report? v) (fun _ _ => rfl) s

@[simp] theorem accepts_commented (text : String) (s : Shape) (v : Value) :
    (commented text s).accepts v = s.accepts v := rfl

@[simp] theorem accepts_bare (s : Shape) (v : Value) : s.bare.accepts v = s.accepts v :=
  apply_bare (f := fun s => s.accepts v) (fun _ _ => rfl) s

@[simp] theorem report?_union (a b : Shape) (v : Value) :
    (union a b).report? v = (a.report? v).or (b.report? v) := by
  simp only [report?, judge]
  cases a.judge v <;> cases b.judge v <;> rfl

/-- An intersection reports where both of its sides do. -/
theorem report?_inter (left right : Shape) (v : Value) :
    (inter left right).report? v
      = (left.report? v).bind fun a => (right.report? v).map fun b =>
        reportOfSides left right a b := by
  simp only [report?, judge]
  cases left.judge v <;> cases right.judge v <;> rfl

theorem report?_inter_eq_some_iff {left right : Shape} {v : Value} {report : KeyReport} :
    (inter left right).report? v = some report ↔
      ∃ a b, left.report? v = some a ∧ right.report? v = some b
        ∧ reportOfSides left right a b = report := by
  simp [report?_inter, Option.bind_eq_some_iff]

theorem untrackedIf_eq_ok_iff {outcome : Except Failure Unit} {report : KeyReport} :
    untrackedIf outcome = .ok report ↔ outcome = .ok () ∧ report = .untracked := by
  cases outcome <;> simp [untrackedIf, eq_comm]

theorem recordEntries_of_some {expected : Shape} {v : Value} {entries : List (String × Value)}
    (h : v.record? = some entries) : recordEntries expected v = .ok entries := by
  cases v with
  | object | «instance» =>
    cases h
    rfl
  | _ => cases h

theorem recordEntries_of_none {v : Value} (h : v.record? = none) (expected : Shape) :
    ∃ failure, recordEntries expected v = .error failure := by
  cases v with
  | object | «instance» => cases h
  | _ => exact ⟨_, rfl⟩

theorem checkEach_eq_ok_iff {check : Value → Except Failure Unit}
    {located : List (Segment × Value)} :
    checkEach check located = .ok () ↔ ∀ part ∈ located, check part.2 = .ok () := by
  induction located with
  | nil => simp [checkEach]
  | cons part rest ih =>
    obtain ⟨segment, v⟩ := part
    cases h : check v <;> simp [checkEach, h, ih]

theorem fieldFailures_eq_nil_iff {fields : List (String × Field Shape)}
    {entries : List (String × Value)} :
    fieldFailures fields entries = [] ↔
      ∀ field ∈ fields, field.2.Admits (Entries.get? entries field.1) := by
  induction fields with
  | nil => simp [fieldFailures]
  | cons field rest ih =>
    obtain ⟨name, ⟨shape, presence⟩⟩ := field
    rw [fieldFailures, List.forall_mem_cons, ← ih]
    cases hget : Entries.get? entries name with
    | none =>
      by_cases hreq : presence = .required <;> simp [Field.Admits, hreq, refuse]
    | some x =>
      by_cases hopt : presence = .optional ∧ x.isUndefined = true
      · simp [Field.Admits, hopt]
      · simp only [Field.Admits, hopt, false_or, accepts_iff, ← check_eq_settle]
        cases shape.check x <;> simp

theorem judgeRecord_eq_ok_iff {expected : Shape} {r : RecordShape Shape} {v : Value}
    {report : KeyReport} :
    judgeRecord expected r v = .ok report ↔
      ∃ entries, v.record? = some entries
        ∧ (∀ field ∈ r.fields, field.2.Admits (Entries.get? entries field.1))
        ∧ report = ⟨some (Entries.keys r.fields), r.exact⟩ := by
  obtain ⟨fields, exact⟩ := r
  rw [judgeRecord]
  cases hv : v.record? with
  | none =>
    obtain ⟨failure, h⟩ := recordEntries_of_none hv expected
    simp [h]
  | some entries =>
    rw [recordEntries_of_some hv]
    simp only [Option.some.injEq, exists_eq_left', ← fieldFailures_eq_nil_iff]
    cases fieldFailures fields entries <;> simp [eq_comm]

theorem checkDict_eq_ok_iff {expected : Shape} {d : DictShape Shape} {v : Value} :
    checkDict expected d v = .ok () ↔
      ∃ entries, v.record? = some entries
        ∧ ∀ entry ∈ entries, d.value.accepts entry.2 = true := by
  obtain ⟨keyName, value⟩ := d
  rw [checkDict, checkValues]
  simp only [← check_eq_settle]
  cases hv : v.record? with
  | none =>
    obtain ⟨failure, h⟩ := recordEntries_of_none hv expected
    simp [h]
  | some entries =>
    rw [recordEntries_of_some hv]
    simp only [checkEach_eq_ok_iff, List.forall_mem_map, Option.some.injEq, exists_eq_left',
      accepts_iff]

/-- With both parts, both are asked. -/
theorem judgeConstraint_both_eq_ok_iff {expected : Shape} {r : RecordShape Shape}
    {d : DictShape Shape} {v : Value} {report : KeyReport} :
    judgeConstraint expected (.both r d) v = .ok report ↔
      checkDict expected d v = .ok () ∧ (∃ known, judgeRecord expected r v = .ok known)
        ∧ report = .untracked := by
  rw [judgeConstraint]
  cases hv : v.record? with
  | none =>
    obtain ⟨failure, hentries⟩ := recordEntries_of_none hv expected
    obtain ⟨keyName, value⟩ := d
    simp [checkDict, checkValues, hentries, untrackedIf]
  | some entries =>
    cases hd : checkDict expected d v with
    | error failure => cases judgeRecord expected r v <;> simp
    | ok _ => cases judgeRecord expected r v <;> simp [eq_comm]

/-- What a constraint reports of a value, whichever shape it is checked for. -/
theorem judgeConstraint_eq_ok_iff (expected : Shape) {c : Constraint Shape} {v : Value}
    {report : KeyReport} :
    judgeConstraint expected c v = .ok report ↔
      ∃ entries, v.record? = some entries ∧ c.HoldsOn entries ∧ report = c.report := by
  cases c with
  | record r =>
    rw [judgeConstraint, judgeRecord_eq_ok_iff]
    simp [Constraint.holdsOn_iff, Constraint.fields, Constraint.report]
  | dict d =>
    rw [judgeConstraint, untrackedIf_eq_ok_iff, checkDict_eq_ok_iff]
    constructor
    · rintro ⟨⟨entries, hv, hd⟩, rfl⟩
      exact ⟨entries, hv, ⟨List.forall_mem_nil _, by simpa using hd⟩, rfl⟩
    · rintro ⟨entries, hv, hc, rfl⟩
      exact ⟨⟨entries, hv, hc.values d rfl⟩, rfl⟩
  | both r d =>
    rw [judgeConstraint_both_eq_ok_iff, checkDict_eq_ok_iff]
    simp only [judgeRecord_eq_ok_iff, Constraint.holdsOn_iff]
    constructor
    · rintro ⟨⟨entries, hv, hd⟩, ⟨_, _, hv', hr, -⟩, rfl⟩
      cases hv.symm.trans hv'
      exact ⟨entries, hv, ⟨hr, by simpa using hd⟩, rfl⟩
    · rintro ⟨entries, hv, ⟨hr, hd⟩, rfl⟩
      exact ⟨⟨entries, hv, hd d rfl⟩, ⟨_, entries, hv, hr, rfl⟩, rfl⟩

/-- What a shape that constrains records reports, whichever of the four kinds it is. -/
theorem report?_of_constraint? {s : Shape} {c : Constraint Shape} (h : s.constraint? = some c)
    {v : Value} {report : KeyReport} :
    s.report? v = some report ↔
      ∃ entries, v.record? = some entries ∧ c.HoldsOn entries ∧ report = c.report := by
  rw [report?_eq_some_iff, ← judgeConstraint_eq_ok_iff s]
  cases s with
  | record r | dict d | merged left right c =>
    cases h
    rfl
  | _ => cases h

theorem accepts_of_constraint? {s : Shape} {c : Constraint Shape} (h : s.constraint? = some c)
    {v : Value} :
    s.accepts v = true ↔
      ∃ entries, v.record? = some entries ∧ c.HoldsOn entries ∧ c.report.forbidden v = [] := by
  rw [accepts_iff_report?]
  constructor
  · rintro ⟨report, hreport, hkeys⟩
    obtain ⟨entries, hv, hc, rfl⟩ := (report?_of_constraint? h).1 hreport
    exact ⟨entries, hv, hc, hkeys⟩
  · rintro ⟨entries, hv, hc, hkeys⟩
    exact ⟨c.report, (report?_of_constraint? h).2 ⟨entries, hv, hc, rfl⟩, hkeys⟩

/-- Keys are only known where a constraint on records is reached. -/
theorem report?_eq_untracked {s : Shape} (h : s.reachesConstraint = false) {v : Value}
    {report : KeyReport} (hreport : s.report? v = some report) : report = .untracked := by
  induction s using induction_on_parts generalizing report with
  | step s ih =>
    cases s with
    | record | dict | merged => cases h
    | commented text inner =>
      exact ih inner (by simp [parts]) h hreport
    | union left right =>
      obtain ⟨hl, hr⟩ := Bool.or_eq_false_iff.1 h
      rw [report?_union, Option.or_eq_some_iff] at hreport
      obtain hreport | ⟨-, hreport⟩ := hreport
      · exact ih left (by simp [parts]) hl hreport
      · exact ih right (by simp [parts]) hr hreport
    | inter left right =>
      obtain ⟨hl, hr⟩ := Bool.or_eq_false_iff.1 h
      obtain ⟨a, b, ha, hb, rfl⟩ := report?_inter_eq_some_iff.1 hreport
      have hauntracked := ih left (by simp [parts]) hl ha
      have hbuntracked := ih right (by simp [parts]) hr hb
      subst hauntracked hbuntracked
      rcases reportOfSides_cases left right .untracked .untracked with h | h | h <;> rw [h]
      rfl
    | _ => exact (untrackedIf_eq_ok_iff.1 (report?_eq_some_iff.1 hreport)).2

end Shape

end ShapeCheck
