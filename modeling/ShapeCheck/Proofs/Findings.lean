import ShapeCheck.Proofs.Causes
import ShapeCheck.Proofs.Combination
import ShapeCheck.Proofs.Judging
import ShapeCheck.Rejection

/-!
# How failures are found

A failure is found in a value in one of three ways. Either a shape refuses the value itself, for a
reason or for failures that were found in the value. Or the value lacks a field that it must have.
Or the failure was found in a part of the value, and is lifted by the segment that leads to the
part. All that a check reports is found like this, so that a property of failures is shown for the
three ways, and holds of every failure that any shape reports.
-/

namespace ShapeCheck

namespace Value

/-- Whether a segment leads from a value to another one. An entry that a record does not have counts
as undefined, and a key that several values of a map are stored under leads to each of them. -/
inductive Step : Value → Segment → Value → Prop where
  | entry {v : Value} {entries : List (String × Value)} {name : String} {w : Value}
      (hv : v.record? = some entries) (h : (name, w) ∈ entries) : Step v (.key name) w
  | absent {v : Value} {entries : List (String × Value)} {name : String}
      (hv : v.record? = some entries) (h : name ∉ Entries.keys entries) :
      Step v (.key name) .undefined
  | slot {slots : List (Option Value)} {i : Nat} {w : Value} (h : slots[i]? = some (some w)) :
      Step (.array slots) (.index i) w
  | mapKey {entries : List (Value × Value)} {i : Nat} {k w : Value}
      (h : entries[i]? = some (k, w)) : Step (.map entries) (.nth i) k
  | mapValue {entries : List (Value × Value)} {k w : Value} (h : (k, w) ∈ entries) :
      Step (.map entries) (.valueAt k) w
  | item {items : List Value} {i : Nat} {w : Value} (h : items[i]? = some w) :
      Step (.set items) (.nth i) w

end Value

/-- The slots that are no holes stand at their indices. -/
theorem getElem?_of_mem_presentSlots {i : Nat} {slots : List (Option Value)}
    {part : Segment × Value} (h : part ∈ presentSlots i slots) :
    ∃ j, part.1 = .index (i + j) ∧ slots[j]? = some (some part.2) := by
  induction slots generalizing i with
  | nil => cases h
  | cons slot rest ih =>
    have later (h : part ∈ presentSlots (i + 1) rest) :
        ∃ j, part.1 = .index (i + j) ∧ (slot :: rest)[j]? = some (some part.2) := by
      obtain ⟨j, hsegment, hslot⟩ := ih h
      exact ⟨j + 1, by rw [hsegment]; congr 1; omega, hslot⟩
    cases slot with
    | none => exact later h
    | some x =>
      obtain rfl | h := List.mem_cons.1 h
      · exact ⟨0, rfl, rfl⟩
      · exact later h

theorem getElem?_of_mem_positions {i : Nat} {items : List Value} {part : Segment × Value}
    (h : part ∈ positions i items) : ∃ j, part.1 = .nth (i + j) ∧ items[j]? = some part.2 := by
  induction items generalizing i with
  | nil => cases h
  | cons x rest ih =>
    obtain rfl | h := List.mem_cons.1 h
    · exact ⟨0, rfl, rfl⟩
    · obtain ⟨j, hsegment, hitem⟩ := ih h
      exact ⟨j + 1, by rw [hsegment]; congr 1; omega, hitem⟩

variable {demands : String → Shape → Prop} {v w : Value} {s : Shape}

namespace Failure

/-- Whether a failure for several failures, or for the branches of a union, has at least two. -/
def Plural : Failure → Prop
  | several _ causes => 2 ≤ causes.length
  | noBranch _ causes => 2 ≤ causes.length
  | _ => True

/-- Whether a failure was found in a value, where certain fields are demanded of records. -/
inductive FoundIn (demands : String → Shape → Prop) : Failure → Value → Prop where
  | refused {f : Failure} {v : Value} {s : Shape} (hsite : f.site = .here v s)
      (hrefused : s.accepts v = false) (hplural : f.Plural)
      (hcauses : ∀ c ∈ f.causes, FoundIn demands c v) : FoundIn demands f v
  | missing {v : Value} {entries : List (String × Value)} {name : String} {s : Shape}
      (hv : v.record? = some entries) (h : name ∉ Entries.keys entries)
      (hdemanded : demands name s) :
      FoundIn demands (.leaf ⟨[.key name], .undefined, s⟩ (.missingKey name)) v
  | inPart {f : Failure} {v w : Value} {segment : Segment} (hstep : v.Step segment w)
      (h : FoundIn demands f w) : FoundIn demands (f.lift segment) v

/-- Whether there are failures, all of them found in a value. -/
structure FoundAll (demands : String → Shape → Prop) (failures : List Failure) (v : Value) :
    Prop where
  nonempty : failures ≠ []
  found : ∀ f ∈ failures, f.FoundIn demands v

namespace FoundAll

variable {failures others : List Failure}

theorem single {f : Failure} (h : f.FoundIn demands v) : FoundAll demands [f] v :=
  ⟨List.cons_ne_nil _ _, List.forall_mem_singleton.2 h⟩

theorem append (h : FoundAll demands failures v) (h' : FoundAll demands others v) :
    FoundAll demands (failures ++ others) v :=
  ⟨List.append_ne_nil_of_left_ne_nil h.nonempty _,
    List.forall_mem_append.2 ⟨h.found, h'.found⟩⟩

theorem two_le_length_append (h : FoundAll demands failures v) (h' : FoundAll demands others v) :
    2 ≤ (failures ++ others).length := by
  have hfailures := List.length_pos_of_ne_nil h.nonempty
  have hothers := List.length_pos_of_ne_nil h'.nonempty
  rw [List.length_append]
  omega

end FoundAll

namespace FoundIn

variable {f : Failure} {failures : List Failure}

theorem leaf (h : s.accepts v = false) (reason : Reason) :
    (Failure.leaf (.here v s) reason).FoundIn demands v :=
  .refused rfl h trivial (List.forall_mem_nil _)

/-- One failure stands for itself, more of them stand under a failure of the value. -/
theorem combine (h : s.accepts v = false) (hfailures : FoundAll demands failures v) :
    (Failure.combine (.here v s) failures).FoundIn demands v := by
  match failures with
  | [] => exact absurd rfl hfailures.nonempty
  | [only] => exact hfailures.found only (List.mem_singleton.2 rfl)
  | first :: second :: rest =>
    refine .refused rfl h ?_ hfailures.found
    simp [Failure.combine, Plural]

/-- A property of failures, told by their paths from a value, holds of all failures in a tree if it
holds in each of the three ways of finding one. -/
theorem nodes {P : Value → Failure → Prop}
    (refused : ∀ v s f, f.site = .here v s → s.accepts v = false → f.Plural → P v f)
    (missing : ∀ v entries name s, v.record? = some entries → name ∉ Entries.keys entries →
      demands name s → P v (.leaf ⟨[.key name], .undefined, s⟩ (.missingKey name)))
    (inPart : ∀ v segment w f, v.Step segment w → P w f → P v (f.lift segment))
    (h : f.FoundIn demands v) {path : Path} {node : Failure} (hnode : f.NodeAt path node) :
    P v (node.withPath path) := by
  induction h generalizing path node with
  | @refused f v s hsite hrefused hplural _ ih =>
    have hpath : f.path = [] := by
      rw [Failure.path, hsite]
      rfl
    -- Causes were found in the same value, so their paths begin where the path of the root begins.
    obtain ⟨rfl, rfl⟩ | ⟨c, hc, rest, rfl, hrest⟩ := hnode.root_or_ofCause
    · rw [withPath_path]
      exact refused v s _ hsite hrefused hplural
    · rw [hpath]
      exact ih c hc hrest
  | @missing v entries name s hv h hdemanded =>
    obtain ⟨rfl, rfl⟩ | ⟨c, hc, -⟩ := hnode.root_or_ofCause
    · exact missing v entries name s hv h hdemanded
    · cases hc
  | @inPart f v w segment hstep _ ih =>
    obtain ⟨rest, below, rfl, hbelow, hsame⟩ := hnode.of_lift
    rw [hsame, withPath_withPath, ← lift_withPath]
    exact inPart v segment w _ hstep (ih hbelow)

end FoundIn

end Failure

/-- Whether a refusal was found in a value: the failure that it becomes, and those that it adds to a
shape around. -/
structure Refusal.FoundIn (demands : String → Shape → Prop) (refusal : Refusal) (v : Value) :
    Prop where
  failure : refusal.failure.FoundIn demands v
  branches : Failure.FoundAll demands refusal.asBranches v
  sides : Failure.FoundAll demands refusal.asSides v

namespace Refusal.FoundIn

variable {refused refusedToo : Refusal}

theorem closed {f : Failure} (h : f.FoundIn demands v) : (Refusal.closed f).FoundIn demands v :=
  ⟨h, .single h, .single h⟩

theorem branching (h : s.accepts v = false) (hrefused : refused.FoundIn demands v)
    (hrefusedToo : refusedToo.FoundIn demands v) :
    (Refusal.branches (.here v s) (refused.asBranches ++ refusedToo.asBranches)).FoundIn
      demands v := by
  have hall := hrefused.branches.append hrefusedToo.branches
  have hfailure : (Failure.noBranch (.here v s)
      (refused.asBranches ++ refusedToo.asBranches)).FoundIn demands v :=
    .refused rfl h (hrefused.branches.two_le_length_append hrefusedToo.branches) hall.found
  exact ⟨hfailure, hall, .single hfailure⟩

theorem sided (h : s.accepts v = false) (hrefused : refused.FoundIn demands v)
    (hrefusedToo : refusedToo.FoundIn demands v) :
    (Refusal.sides (.here v s) (refused.asSides ++ refusedToo.asSides)).FoundIn demands v := by
  have hall := hrefused.sides.append hrefusedToo.sides
  have hfailure : (Failure.several (.here v s)
      (refused.asSides ++ refusedToo.asSides)).FoundIn demands v :=
    .refused rfl h (hrefused.sides.two_le_length_append hrefusedToo.sides) hall.found
  exact ⟨hfailure, .single hfailure, hall⟩

end Refusal.FoundIn

/-- Whether a failed outcome fails with a failure that was found in a value. -/
def FoundOutcome (demands : String → Shape → Prop) (outcome : Except Failure Unit) (v : Value) :
    Prop :=
  ∀ failure, outcome = .error failure → failure.FoundIn demands v

namespace FoundOutcome

variable {check checkKey checkValue : Value → Except Failure Unit}

theorem ok (v : Value) : FoundOutcome demands (.ok ()) v := by
  rintro failure ⟨⟩

theorem refuse (h : s.accepts v = false) (reason : Reason) :
    FoundOutcome demands (ShapeCheck.refuse s v reason) v := by
  rintro failure ⟨⟩
  exact .leaf h reason

theorem checkEach (hcheck : ∀ x, FoundOutcome demands (check x) x)
    {located : List (Segment × Value)} (hsteps : ∀ part ∈ located, v.Step part.1 part.2) :
    FoundOutcome demands (ShapeCheck.checkEach check located) v := by
  induction located with
  | nil => exact ok v
  | cons part rest ih =>
    obtain ⟨hstep, hrest⟩ := List.forall_mem_cons.1 hsteps
    rw [ShapeCheck.checkEach]
    cases hpart : check part.2 with
    | ok _ => exact ih hrest
    | error failure =>
      rintro _ ⟨⟩
      exact .inPart hstep (hcheck part.2 failure hpart)

theorem checkPairs (hkey : ∀ x, FoundOutcome demands (checkKey x) x)
    (hvalue : ∀ x, FoundOutcome demands (checkValue x) x) {i : Nat}
    {entries : List (Value × Value)}
    (hkeys : ∀ j k w, entries[j]? = some (k, w) → v.Step (.nth (i + j)) k)
    (hvalues : ∀ k w, (k, w) ∈ entries → v.Step (.valueAt k) w) :
    FoundOutcome demands (ShapeCheck.checkPairs checkKey checkValue i entries) v := by
  induction entries generalizing i with
  | nil => exact ok v
  | cons entry rest ih =>
    obtain ⟨k, x⟩ := entry
    rw [ShapeCheck.checkPairs]
    cases hk : checkKey k with
    | error failure =>
      rintro _ ⟨⟩
      exact .inPart (hkeys 0 k x rfl) (hkey k failure hk)
    | ok _ =>
      cases hx : checkValue x with
      | error failure =>
        rintro _ ⟨⟩
        exact .inPart (hvalues k x List.mem_cons_self) (hvalue x failure hx)
      | ok _ =>
        apply ih
        · intro j l w hentry
          have hstep := hkeys (j + 1) l w hentry
          rwa [show i + (j + 1) = i + 1 + j by omega] at hstep
        · intro l w hentry
          exact hvalues l w (List.mem_cons_of_mem _ hentry)

/-- What a report forbids stands in the record that it forbids it in. -/
theorem enforce {report : KeyReport}
    (hrefused : ∀ failure, report.enforce s v = .error failure → s.accepts v = false) :
    FoundOutcome demands (report.enforce s v) v := by
  have entries (entry : String × Value) (h : entry ∈ report.forbidden v) :
      (KeyReport.unknownKey entry).FoundIn demands v := by
    have hstep : v.Step (.key entry.1) entry.2 := by
      unfold KeyReport.forbidden at h
      split at h
      · rename_i hv
        exact .entry hv (List.mem_filter.1 h).1
      · cases h
    exact .inPart hstep (.leaf rfl (.unknownKey entry.1))
  intro failure h
  have hs := hrefused failure h
  rw [KeyReport.enforce] at h
  cases hforbidden : report.forbidden v with
  | nil =>
    rw [hforbidden] at h
    cases h
  | cons entry rest =>
    rw [hforbidden] at h
    cases h
    refine .combine hs ⟨List.cons_ne_nil _ _, fun f hf => ?_⟩
    obtain ⟨extra, hextra, rfl⟩ := List.mem_map.1 hf
    exact entries extra (hforbidden ▸ hextra)

end FoundOutcome

namespace Shape

theorem accepts_eq_false_of_judge {refusal : Refusal} (h : s.judge v = .error refusal) :
    s.accepts v = false := by
  refine accepts_eq_false_iff.2 ⟨refusal.failure, ?_⟩
  rw [check_eq_settle, h, settle]

theorem found_checkArray (h : s.accepts v = false) {check : Value → Except Failure Unit}
    (hcheck : ∀ x, FoundOutcome demands (check x) x) :
    FoundOutcome demands (checkArray s check v) v := by
  cases v with
  | array slots =>
    refine .checkEach hcheck fun part hpart => ?_
    obtain ⟨segment, x⟩ := part
    obtain ⟨j, rfl, hslot⟩ := getElem?_of_mem_presentSlots hpart
    rw [Nat.zero_add]
    exact .slot hslot
  | _ => exact .refuse h .notArray

theorem found_checkSet (h : s.accepts v = false) {check : Value → Except Failure Unit}
    (hcheck : ∀ x, FoundOutcome demands (check x) x) :
    FoundOutcome demands (checkSet s check v) v := by
  cases v with
  | set items =>
    refine .checkEach hcheck fun part hpart => ?_
    obtain ⟨segment, x⟩ := part
    obtain ⟨j, rfl, hitem⟩ := getElem?_of_mem_positions hpart
    rw [Nat.zero_add]
    exact .item hitem
  | _ => exact .refuse h .notSet

theorem found_checkMap (h : s.accepts v = false)
    {checkKey checkValue : Value → Except Failure Unit}
    (hkey : ∀ x, FoundOutcome demands (checkKey x) x)
    (hvalue : ∀ x, FoundOutcome demands (checkValue x) x) :
    FoundOutcome demands (checkMap s checkKey checkValue v) v := by
  cases v with
  | map entries =>
    apply FoundOutcome.checkPairs hkey hvalue
    · intro j k w hentry
      rw [Nat.zero_add]
      exact .mapKey hentry
    · intro k w hentry
      exact .mapValue hentry
  | _ => exact .refuse h .notMap

theorem found_checkValues (h : s.accepts v = false) {check : Value → Except Failure Unit}
    (hcheck : ∀ x, FoundOutcome demands (check x) x) :
    FoundOutcome demands (checkValues s check v) v := by
  rw [checkValues]
  cases hv : v.record? with
  | none =>
    rw [recordEntries_of_record?_eq_none s hv]
    exact .refuse h v.recordFault
  | some entries =>
    rw [recordEntries_of_some hv]
    refine .checkEach hcheck fun part hpart => ?_
    obtain ⟨entry, hentry, rfl⟩ := List.mem_map.1 hpart
    exact .entry hv hentry

theorem found_checkLeaf (h : s.accepts v = false) : FoundOutcome demands (s.checkLeaf v) v := by
  rw [checkLeaf_eq]
  cases s.leafFault v with
  | none => exact .ok v
  | some reason => exact .refuse h reason

/-- The value of a field is an entry of the record, and a missing one an entry that is not there. -/
theorem found_fieldFailures {fields : List (String × Field Shape)}
    {entries : List (String × Value)} (hv : v.record? = some entries)
    (hdemands : ∀ name t, (name, ⟨t, .required⟩) ∈ fields → demands name t)
    (hcheck : ∀ field ∈ fields, ∀ x, FoundOutcome demands (field.2.shape.check x) x) :
    ∀ f ∈ fieldFailures fields entries, f.FoundIn demands v := by
  intro f hf
  rw [fieldFailures_eq_filterMap] at hf
  obtain ⟨⟨name, field⟩, hfield, hf⟩ := List.mem_filterMap.1 hf
  unfold Field.failure? at hf
  split at hf
  · cases hf
  · rename_i failure hfailure
    cases hf
    cases hget : Entries.get? entries name with
    | none =>
      rw [hget, Field.check] at hfailure
      split at hfailure
      · rename_i hrequired
        cases hfailure
        refine .missing hv (Entries.get?_eq_none_iff.1 hget) (hdemands name field.shape ?_)
        rw [← hrequired]
        exact hfield
      · cases hfailure
    | some x =>
      refine .inPart (.entry hv (Entries.mem_of_get? hget)) ?_
      rw [hget, Field.check] at hfailure
      split at hfailure
      · cases hfailure
      · exact hcheck _ hfield x failure hfailure

theorem found_judgeRecord (hs : s.accepts v = false) {r : RecordShape Shape}
    (hdemands : ∀ name t, (name, ⟨t, .required⟩) ∈ r.fields → demands name t)
    (hcheck : ∀ field ∈ r.fields, ∀ x, FoundOutcome demands (field.2.shape.check x) x)
    {refusal : Refusal} (h : judgeRecord s r v = .error refusal) : refusal.FoundIn demands v := by
  obtain ⟨fields, exact⟩ := r
  rw [judgeRecord] at h
  cases hv : v.record? with
  | none =>
    rw [recordEntries_of_record?_eq_none s hv] at h
    cases h
    exact .closed (.leaf hs v.recordFault)
  | some entries =>
    rw [recordEntries_of_some hv] at h
    have hfound := found_fieldFailures hv hdemands hcheck
    cases hfailures : fieldFailures fields entries with
    | nil =>
      simp only [hfailures] at h
      cases h
    | cons failure failures =>
      simp only [hfailures] at h
      cases h
      exact .closed (.combine hs ⟨List.cons_ne_nil _ _, hfailures ▸ hfound⟩)

theorem found_untrackedIf {outcome : Except Failure Unit}
    (houtcome : FoundOutcome demands outcome v) {refusal : Refusal}
    (h : untrackedIf outcome = .error refusal) : refusal.FoundIn demands v := by
  obtain ⟨failure, hfailure, rfl⟩ := untrackedIf_eq_error h
  exact .closed (houtcome failure hfailure)

theorem found_judgeConstraint (hs : s.accepts v = false) {c : Constraint Shape}
    (hdemands : ∀ name t, (name, ⟨t, .required⟩) ∈ c.fields → demands name t)
    (hcheck : ∀ t ∈ c.parts, ∀ x, FoundOutcome demands (t.check x) x) {refusal : Refusal}
    (h : judgeConstraint s c v = .error refusal) : refusal.FoundIn demands v := by
  have ofDict {d : DictShape Shape} (hd : c.dict? = some d) :
      FoundOutcome demands (checkDict s d v) v := by
    rw [checkDict_eq]
    exact found_checkValues hs (hcheck _ (Constraint.mem_parts_of_dict? hd))
  have ofFields (field : String × Field Shape) (hfield : field ∈ c.fields) :
      ∀ x, FoundOutcome demands (field.2.shape.check x) x :=
    hcheck _ (Constraint.mem_parts_of_field hfield)
  cases c with
  | record r => exact found_judgeRecord hs hdemands ofFields h
  | dict d => exact found_untrackedIf (ofDict rfl) h
  | both r d =>
    obtain ⟨failure, hdict, rfl⟩ | ⟨refused, hrecord, rfl⟩
      | ⟨failure, refused, hdict, hrecord, rfl⟩ := judgeConstraint_both_eq_error h
    · exact .closed (ofDict rfl failure hdict)
    · exact .closed (found_judgeRecord hs hdemands ofFields hrecord).failure
    · have hrefused := found_judgeRecord hs hdemands ofFields hrecord
      exact .closed (.combine hs (.append (.single (ofDict rfl failure hdict))
        (.single hrefused.failure)))

theorem found_settle (hjudge : ∀ refusal, s.judge v = .error refusal → refusal.FoundIn demands v) :
    FoundOutcome demands (settle s v (s.judge v)) v := by
  cases hjudged : s.judge v with
  | ok report =>
    refine .enforce fun failure h => ?_
    rw [accepts_bare, accepts_eq_false_iff]
    refine ⟨failure, ?_⟩
    rw [check_eq_settle, hjudged, settle, h]
  | error refusal =>
    rintro _ ⟨⟩
    exact (hjudge refusal hjudged).failure

/-- Whether a record shape somewhere inside demands a field, and which shape its value must have. -/
def Demands (s : Shape) (name : String) (t : Shape) : Prop :=
  ∃ (u : Shape) (c : Constraint Shape), u.InsideOf s ∧ u.constraint? = some c
    ∧ (name, ⟨t, .required⟩) ∈ c.fields

/-- Whatever a shape refuses, its refusal was found in the value. -/
theorem found_judge (s : Shape) (hdemands : ∀ name t, s.Demands name t → demands name t) {v : Value}
    {refusal : Refusal} (h : s.judge v = .error refusal) : refusal.FoundIn demands v := by
  induction s using induction_on_parts generalizing v refusal with
  | step s ih =>
    have hs := accepts_eq_false_of_judge h
    -- What a part demands is demanded inside the whole, so that one set of demands serves them all.
    have ofPart {t : Shape} (ht : t ∈ s.parts) {x : Value} {refused : Refusal}
        (hrefused : t.judge x = .error refused) : refused.FoundIn demands x := by
      refine ih t ht (fun name u hu => hdemands name u ?_) hrefused
      obtain ⟨u, c, hinside, hc, hfield⟩ := hu
      exact ⟨u, c, .of_mem_parts ht hinside, hc, hfield⟩
    have hcheck {t : Shape} (ht : t ∈ s.parts) (x : Value) :
        FoundOutcome demands (t.check x) x := by
      rw [check_eq_settle]
      exact found_settle fun _ => ofPart ht
    have ofConstraint {c : Constraint Shape} (hc : s.constraint? = some c) :
        refusal.FoundIn demands v := by
      rw [judge_of_constraint? hc] at h
      refine found_judgeConstraint hs (fun name t hfield => hdemands name t ?_)
        (fun t ht => hcheck (mem_parts_of_constraint? hc ht)) h
      exact ⟨s, c, .self s, hc, hfield⟩
    cases s with
    | record | dict | merged => exact ofConstraint rfl
    | array element =>
      rw [judge_array] at h
      exact found_untrackedIf (found_checkArray hs (hcheck (by simp [parts]))) h
    | set element =>
      rw [judge_set] at h
      exact found_untrackedIf (found_checkSet hs (hcheck (by simp [parts]))) h
    | map key value =>
      rw [judge_map] at h
      exact found_untrackedIf
        (found_checkMap hs (hcheck (by simp [parts])) (hcheck (by simp [parts]))) h
    | commented text inner => exact ofPart (t := inner) (by simp [parts]) h
    | union left right =>
      obtain ⟨refused, refusedToo, hleft, hright, rfl⟩ := judge_union_eq_error h
      exact .branching hs (ofPart (by simp [parts]) hleft) (ofPart (by simp [parts]) hright)
    | inter left right =>
      obtain ⟨refused, hleft | hright, rfl⟩ | ⟨refused, refusedToo, hleft, hright, rfl⟩ :=
        judge_inter_eq_error h
      · exact .closed (ofPart (by simp [parts]) hleft).failure
      · exact .closed (ofPart (by simp [parts]) hright).failure
      · exact .sided hs (ofPart (by simp [parts]) hleft) (ofPart (by simp [parts]) hright)
    | _ => exact found_untrackedIf (found_checkLeaf hs) h

/-- What a check reports was found in the value. -/
theorem found_check {failure : Failure} (h : s.check v = .error failure) :
    failure.FoundIn s.Demands v := by
  rw [check_eq_settle] at h
  exact found_settle (fun _ => s.found_judge fun _ _ hdemanded => hdemanded) failure h

/-- And so was what is told for the whole value. -/
theorem found_rerooted {failure : Failure} (h : s.check v = .error failure) :
    (s.rerooted v failure).FoundIn s.Demands v := by
  unfold rerooted
  split
  · exact found_check h
  · exact .refused rfl (accepts_eq_false_iff.2 ⟨failure, h⟩) trivial
      (List.forall_mem_singleton.2 (found_check h))

end Shape

end ShapeCheck
