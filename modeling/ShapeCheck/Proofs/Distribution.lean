import ShapeCheck.Proofs.Branches
import ShapeCheck.Proofs.Carrying
import ShapeCheck.Proofs.Rearrangement

/-!
# A record shape in the branches of a union, and beside it

A record shape on the left of a union is carried into the branches, and with each record shape and
dictionary among them it becomes one constraint. On the right of the union it is checked beside it.
As long as no branch shares a field with the record shape, combining fields changes none of them, so
that the same branch decides either way, with the same keys. What is kept differs in the order of
entries only.
-/

namespace ShapeCheck.Shape

variable {s u left right : Shape} {r q : RecordShape Shape} {v w : Value}

theorem andFields_of_disjoint {fields others : List (String × Field Shape)}
    (h : ∀ name ∈ Entries.keys fields, name ∉ Entries.keys others) :
    andFields fields others = fields := by
  induction fields with
  | nil => rfl
  | cons field fields ih =>
    obtain ⟨name, ⟨shape, presence⟩⟩ := field
    rw [Entries.keys_cons, List.forall_mem_cons] at h
    have hnone : Entries.get? others name = none := Entries.get?_eq_none_iff.2 h.1
    rw [andFields, hnone, ih h.2]

/-- Record shapes that share no name are combined by putting their fields together. -/
theorem fields_andRecords_of_disjoint
    (h : ∀ name ∈ Entries.keys q.fields, name ∉ Entries.keys r.fields) :
    (andRecords r q).fields = r.fields ++ q.fields := by
  obtain ⟨fields, exact⟩ := r
  have hleft : andFields fields q.fields = fields :=
    andFields_of_disjoint fun name hname hother => h name hother hname
  have hright : (q.fields.filter fun field => (Entries.get? fields field.1).isNone) = q.fields := by
    refine List.filter_eq_self.2 fun field hfield => ?_
    rw [Entries.get?_eq_none_iff.2 (h field.1 (Entries.mem_keys_of_mem hfield))]
    rfl
  rw [andRecords, hleft, hright]

/-- A shape that is no union, intersection or validation and shares no field with a record shape. -/
inductive ApartFrom (r : RecordShape Shape) : Shape → Prop where
  | any : ApartFrom r any
  | never : ApartFrom r never
  | literal (l : Literal) : ApartFrom r (literal l)
  | tagged (tag : Tag) : ApartFrom r (tagged tag)
  | instanceOf (cls : Class) : ApartFrom r (instanceOf cls)
  | guarded (name : String) (test : Value → Bool) : ApartFrom r (guarded name test)
  | array (element : Shape) : ApartFrom r (array element)
  | map (key value : Shape) : ApartFrom r (map key value)
  | set (element : Shape) : ApartFrom r (set element)
  | record (q : RecordShape Shape)
    (h : ∀ name ∈ Entries.keys q.fields, name ∉ Entries.keys r.fields) : ApartFrom r (record q)
  | dict (d : DictShape Shape) : ApartFrom r (dict d)

namespace ApartFrom

theorem isValidation {b : Shape} (h : b.ApartFrom r) : b.isValidation = false := by
  cases h <;> rfl

theorem not_takesValidation {b : Shape} (h : b.ApartFrom r) : ¬b.TakesValidation v := by
  cases h <;> exact id

/-- Together with the record shape a branch holds where both do. -/
theorem meetsIn {b : Shape} (h : b.ApartFrom r) : MeetsIn (.record r) b v := by
  intro d hd entries _
  cases h with
  | record q h =>
    rw [List.mem_singleton.1 hd]
    have hfields : (andConstraints (.record r) (.record q)).fields = r.fields ++ q.fields :=
      fields_andRecords_of_disjoint h
    have hdict : (andConstraints (.record r) (.record q)).dict? = none := rfl
    rw [Constraint.holdsOn_iff, Constraint.holdsOn_iff, Constraint.holdsOn_iff, hfields, hdict,
      List.forall_mem_append]
    simp [Constraint.fields]
  | dict d =>
    rw [List.mem_singleton.1 hd]
    have hboth : andConstraints (.record r) (.dict d) = .both r d := rfl
    rw [Constraint.holdsOn_iff, Constraint.holdsOn_iff, Constraint.holdsOn_iff, hboth]
    simp [Constraint.fields]
  | _ => cases hd

end ApartFrom

section

variable (hb : ∀ b ∈ u.branches, b.ApartFrom r)

include hb

theorem meetsIn_of_branches : MeetsIn (.record r) u v :=
  of_branches (p := fun s => MeetsIn (.record r) s v)
    (fun _ _ hleft hright => List.forall_mem_append.2 ⟨hleft, hright⟩) (fun _ _ h => h)
    fun b hmem => (hb b hmem).meetsIn

theorem not_takesValidation_of_branches : ¬u.TakesValidation v := by
  refine (of_branches (p := fun s => s.isValidation = false ∧ ¬s.TakesValidation v) ?_ ?_
    fun b hmem => ⟨(hb b hmem).isValidation, (hb b hmem).not_takesValidation⟩).2
  · rintro left right ⟨hl, hleft⟩ ⟨hr, hright⟩
    refine ⟨rfl, ?_⟩
    rintro (⟨-, hv | ht⟩ | ⟨-, -, hv | ht⟩)
    · simp [hl] at hv
    · exact hleft ht
    · simp [hr] at hv
    · exact hright ht
  · exact fun text s h => h

/-- Carried into the branches or beside them, the same is reported up to the order of keys. -/
theorem scope?_record_and (hu : u.bare.constraint? = none) :
    ((record r).and u).scope? v = (u.and (record r)).scope? v := by
  have hcarried : CarriedInto (record r) v u ((record r).and u) :=
    carriedInto_absorb rfl (meetsIn_of_branches hb)
  -- Both come to the record shape beside the union, where sides can be exchanged.
  rw [hcarried.scope (not_takesValidation_of_branches hb), scope?_inter_comm,
    ← (Alike.and_of_bare hu (record r)).scope?_eq]

end

/-- A record shape that shares no field with the branches of a union is distributed over them
without consequences: what is accepted is what the union and the record shape accept side by side,
and what is kept is the same but for the order of entries, which equality does not see. -/
theorem record_and_union (hu : u.bare = union left right) (hb : ∀ b ∈ u.branches, b.ApartFrom r)
    (v : Value) :
    ((record r).and u).accepts v = (u.and (record r)).accepts v
      ∧ ∀ w, ((record r).and u).slice v = .ok w →
        ∃ w', (u.and (record r)).slice v = .ok w' ∧ w.Rearranged w'
          ∧ (∀ x, w.equals x = w'.equals x) ∧ (w'.equals w' = true → w.equals w' = true) := by
  have hnone : u.bare.constraint? = none := by rw [hu]; rfl
  have hscope := scope?_record_and (v := v) hb hnone
  refine ⟨accepts_eq_of_scope? hscope, fun w hw => ?_⟩
  obtain ⟨w', hw', hrearranged⟩ := slice_rearranged_of_scope?
    (not_isHybrid_of_constraint?_bare (constraint?_bare_and_of_right (record r) hnone))
    (not_isHybrid_of_constraint?_bare (constraint?_bare_and hnone (record r))) hscope hw
  exact ⟨w', hw', hrearranged, hrearranged.equals_eq,
    fun hself => (hrearranged.equals_eq w').trans hself⟩

theorem record_and_union_nested :
    ∃ w', ((((openRecord [("b", ⟨any, .required⟩)]).comment "text").or ((dictOf any).or any)).and
          (openRecord [("a", ⟨any, .required⟩)])).slice (.object [("a", .null), ("b", .null)])
          = .ok w'
      ∧ (Value.object [("a", .null), ("b", .null)]).Rearranged w' := by
  have hsliced : ((openRecord [("a", ⟨any, .required⟩)]).and
      (((openRecord [("b", ⟨any, .required⟩)]).comment "text").or ((dictOf any).or any))).slice
      (.object [("a", .null), ("b", .null)]) = .ok (.object [("a", .null), ("b", .null)]) := rfl
  have hbranches : ∀ b ∈
      (((openRecord [("b", ⟨any, .required⟩)]).comment "text").or ((dictOf any).or any)).branches,
      b.ApartFrom ⟨[("a", ⟨any, .required⟩)], false⟩ := by
    refine List.forall_mem_cons.2 ⟨.record _ (by decide), ?_⟩
    exact List.forall_mem_cons.2 ⟨.dict _, List.forall_mem_singleton.2 .any⟩
  obtain ⟨w', hw', hrearranged, -⟩ :=
    (record_and_union (u := ((openRecord [("b", ⟨any, .required⟩)]).comment "text").or
      ((dictOf any).or any)) rfl hbranches (.object [("a", .null), ("b", .null)])).2 _ hsliced
  exact ⟨w', hw', hrearranged⟩

/-- What is no number is not even equal to itself, so that slices that hold it are not equal. -/
theorem not_record_and_union :
    ∃ w w', ((openRecord [("a", ⟨any, .required⟩)]).and
          ((openRecord [("b", ⟨any, .required⟩)]).or any)).slice
          (.object [("a", .number .nan), ("b", .null)]) = .ok w
      ∧ (((openRecord [("b", ⟨any, .required⟩)]).or any).and
          (openRecord [("a", ⟨any, .required⟩)])).slice
          (.object [("a", .number .nan), ("b", .null)]) = .ok w'
      ∧ w.equals w' = false :=
  ⟨_, _, rfl, rfl, by decide⟩

end ShapeCheck.Shape
