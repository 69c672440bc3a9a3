import ShapeCheck.Proofs.Built
import ShapeCheck.Proofs.EntryPoints
import ShapeCheck.Proofs.Judging
import ShapeCheck.Proofs.Uncommented

/-!
# Checking ignores comments

Whatever a shape says of a value, it says the same without its comments: the reports and slices are
equal, and a failure only differs in the shapes that it expected, which are then without comments.
Nothing is said here of the values, so this is an equation for every step of a check, from the parts
of a value up to the ways to ask about it.

Shapes are written down as expressions, and what an expression builds without its comments is the
uncommented shape.
-/

namespace ShapeCheck

/-- The same site with another shape. -/
def Site.mapExpected (g : Shape → Shape) (site : Site) : Site :=
  { site with expected := g site.expected }

namespace Failure

mutual

/-- The same failure with other shapes expected everywhere. -/
def mapExpected (g : Shape → Shape) : Failure → Failure
  | leaf site reason => leaf (site.mapExpected g) reason
  | several site causes => several (site.mapExpected g) (mapExpectedAll g causes)
  | noBranch site causes => noBranch (site.mapExpected g) (mapExpectedAll g causes)
  | rerooted site cause => rerooted (site.mapExpected g) (cause.mapExpected g)
termination_by structural f => f

def mapExpectedAll (g : Shape → Shape) : List Failure → List Failure
  | [] => []
  | cause :: causes => cause.mapExpected g :: mapExpectedAll g causes
termination_by structural causes => causes

end

theorem mapExpectedAll_eq_map (g : Shape → Shape) (fs : List Failure) :
    mapExpectedAll g fs = fs.map (mapExpected g) := by
  induction fs with
  | nil => rfl
  | cons f fs ih => rw [mapExpectedAll, ih, List.map_cons]

theorem mapExpected_several (g : Shape → Shape) (site : Site) (causes : List Failure) :
    (several site causes).mapExpected g
      = several (site.mapExpected g) (causes.map (mapExpected g)) := by
  rw [mapExpected, mapExpectedAll_eq_map]

theorem mapExpected_noBranch (g : Shape → Shape) (site : Site) (causes : List Failure) :
    (noBranch site causes).mapExpected g
      = noBranch (site.mapExpected g) (causes.map (mapExpected g)) := by
  rw [mapExpected, mapExpectedAll_eq_map]

@[simp] theorem path_mapExpected (g : Shape → Shape) (f : Failure) :
    (f.mapExpected g).path = f.path := by
  cases f <;> rfl

@[simp] theorem value_mapExpected (g : Shape → Shape) (f : Failure) :
    (f.mapExpected g).value = f.value := by
  cases f <;> rfl

@[simp] theorem causes_mapExpected (g : Shape → Shape) (f : Failure) :
    (f.mapExpected g).causes = f.causes.map (mapExpected g) := by
  cases f with
  | several site causes => rw [mapExpected_several]; rfl
  | noBranch site causes => rw [mapExpected_noBranch]; rfl
  | _ => rfl

theorem mapExpected_lift (g : Shape → Shape) (segment : Segment) (f : Failure) :
    (f.lift segment).mapExpected g = (f.mapExpected g).lift segment := by
  cases f <;> rfl

theorem mapExpected_combine (g : Shape → Shape) (site : Site) (fs : List Failure) :
    (combine site fs).mapExpected g = combine (site.mapExpected g) (fs.map (mapExpected g)) := by
  match fs with
  | [only] => rfl
  | [] | _ :: _ :: _ => exact mapExpected_several g site _

end Failure

/-- The same refusal with other shapes expected everywhere. -/
def Refusal.mapExpected (g : Shape → Shape) : Refusal → Refusal
  | closed failure => closed (failure.mapExpected g)
  | branches site failures => branches (site.mapExpected g) (failures.map (.mapExpected g))
  | sides site failures => sides (site.mapExpected g) (failures.map (.mapExpected g))

namespace Refusal

variable (g : Shape → Shape) (refusal : Refusal)

@[simp] theorem failure_mapExpected :
    (refusal.mapExpected g).failure = refusal.failure.mapExpected g := by
  cases refusal with
  | closed failure => rfl
  | branches site failures => exact (Failure.mapExpected_noBranch g site failures).symm
  | sides site failures => exact (Failure.mapExpected_several g site failures).symm

@[simp] theorem asBranches_mapExpected :
    (refusal.mapExpected g).asBranches = refusal.asBranches.map (.mapExpected g) := by
  cases refusal with
  | closed failure => rfl
  | branches site failures => rfl
  | sides site failures => exact congrArg ([·]) (Failure.mapExpected_several g site failures).symm

@[simp] theorem asSides_mapExpected :
    (refusal.mapExpected g).asSides = refusal.asSides.map (.mapExpected g) := by
  cases refusal with
  | closed failure => rfl
  | branches site failures =>
    exact congrArg ([·]) (Failure.mapExpected_noBranch g site failures).symm
  | sides site failures => rfl

end Refusal

theorem recordEntries_mapExpected (g : Shape → Shape) (expected : Shape) (v : Value) :
    recordEntries (g expected) v
      = (recordEntries expected v).mapError (Failure.mapExpected g) := by
  rw [recordEntries_eq, recordEntries_eq]
  cases v.record? <;> rfl

theorem untrackedIf_mapError (g : Shape → Shape) (outcome : Except Failure Unit) :
    untrackedIf (outcome.mapError (Failure.mapExpected g))
      = (untrackedIf outcome).mapError (Refusal.mapExpected g) := by
  cases outcome <;> rfl

/-- Whether a check answers like another one, with other shapes expected in its failures. -/
def Retells (g : Shape → Shape) (check check' : Value → Except Failure Unit) : Prop :=
  ∀ v, check' v = (check v).mapError (Failure.mapExpected g)

namespace Retells

variable {g : Shape → Shape} {check check' checkKey checkKey' : Value → Except Failure Unit}

theorem parts (h : Retells g check check') (located : List (Segment × Value)) :
    checkEach check' located = (checkEach check located).mapError (Failure.mapExpected g) := by
  induction located with
  | nil => rfl
  | cons part rest ih =>
    rw [checkEach, checkEach, h]
    cases check part.2 with
    | ok _ => exact ih
    | error f => exact congrArg Except.error (f.mapExpected_lift g part.1).symm

theorem pairs (hkey : Retells g checkKey checkKey') (h : Retells g check check') (i : Nat)
    (entries : List (Value × Value)) :
    checkPairs checkKey' check' i entries
      = (checkPairs checkKey check i entries).mapError (Failure.mapExpected g) := by
  induction entries generalizing i with
  | nil => rfl
  | cons entry rest ih =>
    obtain ⟨k, x⟩ := entry
    rw [checkPairs, checkPairs, hkey, h]
    cases checkKey k with
    | error f => exact congrArg Except.error (f.mapExpected_lift g (.nth i)).symm
    | ok _ =>
      cases check x with
      | error f => exact congrArg Except.error (f.mapExpected_lift g (.valueAt k)).symm
      | ok _ => exact ih (i + 1)

theorem array (h : Retells g check check') (expected : Shape) :
    Retells g (checkArray expected check) (checkArray (g expected) check') := by
  intro v
  cases v with
  | array slots => exact h.parts _
  | _ => rfl

theorem set (h : Retells g check check') (expected : Shape) :
    Retells g (checkSet expected check) (checkSet (g expected) check') := by
  intro v
  cases v with
  | set items => exact h.parts _
  | _ => rfl

theorem map (hkey : Retells g checkKey checkKey') (h : Retells g check check')
    (expected : Shape) :
    Retells g (checkMap expected checkKey check) (checkMap (g expected) checkKey' check') := by
  intro v
  cases v with
  | map entries => exact hkey.pairs h 0 entries
  | _ => rfl

theorem values (h : Retells g check check') (expected : Shape) :
    Retells g (checkValues expected check) (checkValues (g expected) check') := by
  intro v
  rw [checkValues, checkValues, recordEntries_mapExpected]
  cases recordEntries expected v with
  | error failure => rfl
  | ok entries => exact h.parts _

/-- An unknown key is told to match nothing, so that nothing must stay nothing. -/
theorem enforce (hnever : g .never = .never) (report : KeyReport) (expected : Shape) :
    Retells g (report.enforce expected) (report.enforce (g expected)) := by
  intro v
  have hunknown (entries : List (String × Value)) :
      (entries.map KeyReport.unknownKey).map (Failure.mapExpected g)
        = entries.map KeyReport.unknownKey := by
    rw [List.map_map]
    apply List.map_congr_left
    intro entry _
    show Failure.leaf ⟨_, _, g .never⟩ _ = _
    rw [hnever]
    rfl
  rw [KeyReport.enforce, KeyReport.enforce]
  cases report.forbidden v with
  | nil => rfl
  | cons entry entries =>
    show _ = Except.error _
    rw [Failure.mapExpected_combine, hunknown]
    rfl

end Retells

namespace Shape

/-- Whether a shape is checked as without its comments. -/
abbrev ChecksUncommented (s : Shape) : Prop := Retells uncommented s.check s.uncommented.check

theorem settle_uncommented (s : Shape) (v : Value) (answer : Except Refusal KeyReport) :
    settle s.uncommented v (answer.mapError (Refusal.mapExpected uncommented))
      = (settle s v answer).mapError (Failure.mapExpected uncommented) := by
  cases answer with
  | error refusal => exact congrArg Except.error (Refusal.failure_mapExpected uncommented refusal)
  | ok report =>
    have hretells := Retells.enforce (g := uncommented) rfl report s.bare v
    rw [uncommented_bare] at hretells
    show report.enforce s.uncommented.bare v = _
    rw [bare_uncommented]
    exact hretells

theorem checkLeaf_uncommented {s : Shape} (h : s.uncommented = s) :
    Retells uncommented s.checkLeaf s.checkLeaf := by
  intro v
  rw [checkLeaf_eq]
  cases s.leafFault v with
  | none => rfl
  | some reason =>
    show _ = Except.error (Failure.leaf ⟨_, _, s.uncommented⟩ _)
    rw [h]
    rfl

theorem failure?_uncommented {f : Field Shape} (h : f.shape.ChecksUncommented) (name : String)
    (x? : Option Value) :
    (f.map uncommented).failure? name x?
      = (f.failure? name x?).map (Failure.mapExpected uncommented) := by
  have hcheck : (f.map uncommented).check name x?
      = (f.check name x?).mapError (Failure.mapExpected uncommented) := by
    cases x? with
    | none =>
      rw [Field.check, Field.check, Field.map]
      split <;> rfl
    | some x =>
      rw [Field.check, Field.check, Field.map]
      split
      · rfl
      · exact h x
  rw [Field.failure?, Field.failure?, hcheck]
  cases f.check name x? with
  | ok _ => rfl
  | error failure => exact congrArg some (failure.mapExpected_lift uncommented _).symm

theorem fieldFailures_uncommented {fields : List (String × Field Shape)}
    (h : ∀ field ∈ fields, field.2.shape.ChecksUncommented) (entries : List (String × Value)) :
    fieldFailures (Entries.mapValues (Field.map uncommented) fields) entries
      = (fieldFailures fields entries).map (Failure.mapExpected uncommented) := by
  rw [fieldFailures_eq_filterMap, fieldFailures_eq_filterMap, Entries.mapValues,
    List.filterMap_map, List.map_filterMap]
  apply List.filterMap_congr
  intro field hfield
  exact failure?_uncommented (h field hfield) field.1 _

theorem judgeRecord_uncommented {r : RecordShape Shape}
    (h : ∀ field ∈ r.fields, field.2.shape.ChecksUncommented) (expected : Shape) (v : Value) :
    judgeRecord expected.uncommented (r.map uncommented) v
      = (judgeRecord expected r v).mapError (Refusal.mapExpected uncommented) := by
  obtain ⟨fields, exact⟩ := r
  rw [RecordShape.map, judgeRecord, judgeRecord, recordEntries_mapExpected]
  cases recordEntries expected v with
  | error failure => rfl
  | ok entries =>
    simp only [Except.mapError, fieldFailures_uncommented h, Entries.keys_mapValues]
    cases fieldFailures fields entries with
    | nil => rfl
    | cons failure failures =>
      have hcombine := Failure.mapExpected_combine uncommented (.here v expected)
        (failure :: failures)
      exact congrArg (Except.error ∘ Refusal.closed) hcombine.symm

theorem checkDict_uncommented {d : DictShape Shape} (h : d.value.ChecksUncommented)
    (expected : Shape) :
    Retells uncommented (checkDict expected d)
      (checkDict expected.uncommented (d.map uncommented)) := by
  intro v
  rw [checkDict_eq, checkDict_eq]
  exact h.values expected v

theorem judgeConstraint_uncommented {c : Constraint Shape}
    (h : ∀ t ∈ c.parts, t.ChecksUncommented) (expected : Shape) (v : Value) :
    judgeConstraint expected.uncommented (c.map uncommented) v
      = (judgeConstraint expected c v).mapError (Refusal.mapExpected uncommented) := by
  have ofFields (field : String × Field Shape) (hfield : field ∈ c.fields) :
      field.2.shape.ChecksUncommented :=
    h _ (Constraint.mem_parts_of_field hfield)
  have ofDict {d : DictShape Shape} (hd : c.dict? = some d) :
      checkDict expected.uncommented (d.map uncommented) v
        = (checkDict expected d v).mapError (Failure.mapExpected uncommented) :=
    checkDict_uncommented (h _ (Constraint.mem_parts_of_dict? hd)) expected v
  cases c with
  | record r => exact judgeRecord_uncommented ofFields expected v
  | dict d =>
    rw [Constraint.map, judgeConstraint, judgeConstraint, ofDict rfl, untrackedIf_mapError]
  | both r d =>
    have hrecord := judgeRecord_uncommented (r := r) ofFields expected v
    simp only [Constraint.map, judgeConstraint, ofDict rfl, hrecord]
    cases v.record? with
    | none => exact untrackedIf_mapError uncommented _
    | some entries =>
      cases checkDict expected d v with
      | ok _ =>
        cases judgeRecord expected r v with
        | ok report => rfl
        | error refusal =>
          exact congrArg (Except.error ∘ Refusal.closed) (Refusal.failure_mapExpected _ refusal)
      | error failure =>
        cases judgeRecord expected r v with
        | ok report => rfl
        | error refusal =>
          show Except.error (Refusal.closed (.combine _ [_, _])) = _
          rw [Refusal.failure_mapExpected]
          exact congrArg (Except.error ∘ Refusal.closed)
            (Failure.mapExpected_combine uncommented (.here v expected) [failure, _]).symm

/-- Judging a value by a shape without its comments. -/
theorem judge_uncommented (s : Shape) (v : Value) :
    s.uncommented.judge v = (s.judge v).mapError (Refusal.mapExpected uncommented) := by
  induction s using induction_on_parts generalizing v with
  | step s ih =>
    have ofPart {t : Shape} (ht : t ∈ s.parts) : t.ChecksUncommented := by
      intro x
      rw [check_eq_settle, check_eq_settle, ih t ht, settle_uncommented]
    have ofConstraint {c : Constraint Shape} (hc : s.constraint? = some c) :
        s.uncommented.judge v = (s.judge v).mapError (Refusal.mapExpected uncommented) := by
      rw [judge_of_constraint? hc, judge_of_constraint? (constraint?_uncommented hc)]
      apply judgeConstraint_uncommented
      intro t ht
      exact ofPart (mem_parts_of_constraint? hc ht)
    cases s with
    | record | dict | merged => exact ofConstraint rfl
    | array element =>
      rw [uncommented, judge_array, judge_array, ← untrackedIf_mapError]
      exact congrArg untrackedIf ((ofPart (by simp [parts])).array (array element) v)
    | set element =>
      rw [uncommented, judge_set, judge_set, ← untrackedIf_mapError]
      exact congrArg untrackedIf ((ofPart (by simp [parts])).set (set element) v)
    | map key value =>
      rw [uncommented, judge_map, judge_map, ← untrackedIf_mapError]
      have hkey : key.ChecksUncommented := ofPart (by simp [parts])
      have hvalue : value.ChecksUncommented := ofPart (by simp [parts])
      exact congrArg untrackedIf (hkey.map hvalue (map key value) v)
    | commented text inner => exact ih inner (by simp [parts]) v
    | union left right =>
      rw [uncommented_union, judge, judge, ih left (by simp [parts]), ih right (by simp [parts])]
      cases left.judge v with
      | ok report => rfl
      | error refused =>
        cases right.judge v with
        | ok report => rfl
        | error refusedToo =>
          simp only [Except.mapError, Refusal.asBranches_mapExpected, ← List.map_append]
          rfl
    | inter left right =>
      rw [uncommented_inter, judge, judge, ih left (by simp [parts]), ih right (by simp [parts]),
        isValidation_uncommented, isValidation_uncommented]
      cases left.judge v with
      | ok report =>
        cases right.judge v with
        | ok report => rfl
        | error refused =>
          exact congrArg (Except.error ∘ Refusal.closed) (Refusal.failure_mapExpected _ refused)
      | error refused =>
        cases right.judge v with
        | ok report =>
          exact congrArg (Except.error ∘ Refusal.closed) (Refusal.failure_mapExpected _ refused)
        | error refusedToo =>
          simp only [Except.mapError, Refusal.asSides_mapExpected, ← List.map_append]
          rfl
    | _ =>
      show untrackedIf _ = (untrackedIf _).mapError _
      rw [← untrackedIf_mapError]
      exact congrArg untrackedIf (checkLeaf_uncommented rfl v)

theorem check_uncommented (s : Shape) : s.ChecksUncommented := by
  intro v
  rw [check_eq_settle, check_eq_settle, judge_uncommented, settle_uncommented]

theorem track_uncommented (s : Shape) (v : Value) :
    s.uncommented.track v = (s.track v).mapError (Failure.mapExpected uncommented) := by
  rw [track, track, judge_uncommented]
  cases s.judge v with
  | ok report => rfl
  | error refusal => exact congrArg Except.error (Refusal.failure_mapExpected uncommented refusal)

theorem copy_uncommented (s : Shape) (v : Value) :
    s.uncommented.copy v = (s.copy v).mapError (Failure.mapExpected uncommented) := by
  rw [copy, copy, check_uncommented]
  cases s.check v <;> rfl

theorem project_uncommented (s : Shape) (v : Value) :
    s.uncommented.project v = (s.project v).mapError (Failure.mapExpected uncommented) := by
  rw [project, project, track_uncommented]
  cases s.track v with
  | error failure => rfl
  | ok report =>
    have henforce := Retells.enforce (g := uncommented) rfl report s v
    simp only [Except.mapError] at henforce ⊢
    rw [henforce]
    cases report.enforce s v <;> rfl

theorem slice_uncommented (s : Shape) (v : Value) :
    s.uncommented.slice v = (s.slice v).mapError (Failure.mapExpected uncommented) := by
  induction s using induction_on_parts with
  | step s ih =>
    cases s with
    | commented text inner => exact ih inner (by simp [parts])
    | record r =>
      have hproject := project_uncommented (record r) v
      rw [uncommented_record] at hproject ⊢
      exact hproject
    | dict d =>
      have hcopy := copy_uncommented (dict d) v
      rw [uncommented_dict] at hcopy ⊢
      exact hcopy
    | union left right => exact project_uncommented (union left right) v
    | inter left right => exact project_uncommented (inter left right) v
    | merged left right c =>
      have hproject := project_uncommented (merged left right c) v
      have htrack := track_uncommented (merged left right c) v
      rw [uncommented_merged] at hproject htrack ⊢
      cases c with
      | record | dict => exact hproject
      | both r d =>
        rw [Constraint.map] at htrack ⊢
        rw [slice, slice, htrack, RecordShape.map, Entries.keys_mapValues]
        cases (merged left right (.both r d)).track v with
        | error failure => rfl
        | ok report => cases v.record? <;> rfl
    | _ => exact copy_uncommented _ v

end Shape

end ShapeCheck
