import ShapeCheck.Proofs.Contents
import ShapeCheck.Proofs.EntryPoints
import ShapeCheck.Proofs.Matching
import ShapeCheck.Proofs.Outline

/-!
# The normal form of merged shapes

Record shapes and dictionaries can be put together in any order of brackets. As long as the shapes
inside lead to no constraint on records themselves, nothing of the brackets is left in what is
accepted and kept: it can be read off the sequence of operands, name by name for the fields and in
one for the dictionaries.
-/

namespace ShapeCheck

/-- A record shape, with every name once, or a dictionary. -/
inductive Operand where
  | record (r : RecordShape Shape) (distinct : (Entries.keys r.fields).Nodup)
  | dict (d : DictShape Shape)

namespace Operand

def constraint : Operand → Constraint Shape
  | record r _ => .record r
  | dict d => .dict d

def shape : Operand → Shape
  | record r _ => .record r
  | dict d => .dict d

def isRecord : Operand → Bool
  | record _ _ => true
  | dict _ => false

/-- Whether a record shape forbids the keys it has no field for. A dictionary knows every key. -/
def isExact : Operand → Bool
  | record r _ => r.exact
  | dict _ => false

/-- No shape right inside leads to a constraint on records. -/
def Plain (o : Operand) : Prop := ∀ t ∈ o.constraint.parts, t.reachesConstraint = false

theorem shape_constraint? (o : Operand) : o.shape.constraint? = some o.constraint := by
  cases o <;> rfl

theorem distinct_constraint (o : Operand) : (Entries.keys o.constraint.fields).Nodup := by
  cases o with
  | record r distinct => exact distinct
  | dict d => exact List.nodup_nil

end Operand

/-- A way to put operands together two by two. -/
inductive Bracketing where
  | operand (o : Operand)
  | pair (left right : Bracketing)

namespace Bracketing

/-- The operands from left to right. -/
def operands : Bracketing → List Operand
  | operand o => [o]
  | pair left right => left.operands ++ right.operands

/-- The intersection of the operands, as the brackets stand. -/
def shape : Bracketing → Shape
  | operand o => o.shape
  | pair left right => left.shape.and right.shape

/-- The constraint that is checked for the intersection. -/
def constraint : Bracketing → Constraint Shape
  | operand o => o.constraint
  | pair left right => Shape.andConstraints left.constraint right.constraint

theorem shape_constraint? (b : Bracketing) : b.shape.constraint? = some b.constraint := by
  induction b with
  | operand o => exact o.shape_constraint?
  | pair left right ihl ihr =>
    rw [shape, Shape.and_of_constraint? ihl, Shape.absorb_of_constraint? ihr]
    rfl

theorem outlines (b : Bracketing) : b.constraint.Outlines (b.operands.map (·.constraint)) := by
  induction b with
  | operand o => exact .single o.distinct_constraint
  | pair left right ihl ihr =>
    rw [operands, List.map_append]
    exact ihl.and ihr

theorem distinct_constraint (b : Bracketing) : (Entries.keys b.constraint.fields).Nodup := by
  induction b with
  | operand o => exact o.distinct_constraint
  | pair left right ihl ihr => exact Shape.nodup_keys_andConstraints ihl ihr

end Bracketing

/-- A shape without constraints accepts what all of several shapes accept. -/
structure Shape.Conjoins (s : Shape) (ss : List Shape) : Prop where
  plain : s.reachesConstraint = false
  accepts : ∀ x, s.accepts x = true ↔ ∀ t ∈ ss, t.accepts x = true

theorem Shape.Conjoins.single {s : Shape} (h : s.reachesConstraint = false) : s.Conjoins [s] :=
  ⟨h, fun x => by simp⟩

theorem Shape.Conjoins.and {s t : Shape} {ss ts : List Shape} (hs : s.Conjoins ss)
    (ht : t.Conjoins ts) : (s.and t).Conjoins (ss ++ ts) where
  plain := by rw [reachesConstraint_and, hs.plain, ht.plain, Bool.or_false]
  accepts x := by
    rw [accepts_and_of_plain hs.plain ht.plain, hs.accepts, ht.accepts, List.forall_mem_append]

/-- The shapes inside a combined constraint accept what those inside its parts accept. -/
structure Constraint.Conjoins (c : Constraint Shape) (cs : List (Constraint Shape)) : Prop where
  fields : ∀ name, Gathers (fun f fs => f.shape.Conjoins (fs.map (·.shape)))
    (Entries.get? c.fields name) (cs.filterMap fun d => Entries.get? d.fields name)
  values : Gathers (fun d ds => d.value.Conjoins (ds.map (·.value))) c.dict?
    (cs.filterMap (·.dict?))

namespace Constraint.Conjoins

theorem single {c : Constraint Shape} (h : ∀ t ∈ c.parts, t.reachesConstraint = false) :
    c.Conjoins [c] where
  fields name := by
    refine .single (fun d => Entries.get? d.fields name) c fun f hf => ?_
    exact .single (h _ (mem_parts_of_field (Entries.mem_of_get? hf)))
  values := .single dict? c fun d hd => .single (h _ (mem_parts_of_dict? hd))

theorem and {a b : Constraint Shape} {as bs : List (Constraint Shape)} (ha : a.Conjoins as)
    (hb : b.Conjoins bs) : (Shape.andConstraints a b).Conjoins (as ++ bs) where
  fields name := by
    rw [Shape.get?_fields_andConstraints, List.filterMap_append]
    refine .merge ?_ (ha.fields name) (hb.fields name)
    intro f g fs gs hf hg
    rw [List.map_append]
    exact hf.and hg
  values := by
    rw [Shape.dict?_andConstraints, List.filterMap_append]
    refine .merge ?_ ha.values hb.values
    intro d e ds es hd he
    rw [List.map_append, Shape.value_andDicts]
    exact hd.and he

end Constraint.Conjoins

theorem Bracketing.conjoins {b : Bracketing} (h : ∀ o ∈ b.operands, o.Plain) :
    b.constraint.Conjoins (b.operands.map (·.constraint)) := by
  induction b with
  | operand o => exact .single (h o (List.mem_singleton_self o))
  | pair left right ihl ihr =>
    rw [operands] at h ⊢
    rw [List.map_append]
    exact (ihl fun o ho => h o (List.mem_append_left _ ho)).and
      (ihr fun o ho => h o (List.mem_append_right _ ho))

namespace Operand

/-- The names of all fields, in the order in which they first come. -/
def names (operands : List Operand) : List String :=
  (operands.flatMap fun o => Entries.keys o.constraint.fields).eraseDups

/-- The fields of one name. -/
def fieldsNamed (operands : List Operand) (name : String) : List (Field Shape) :=
  operands.filterMap fun o => Entries.get? o.constraint.fields name

/-- What several fields of one name ask for: the strictest of them decides what may be missing or
undefined, and any other value has to match all of them. -/
def Admit (fields : List (Field Shape)) : Option Value → Prop
  | none => Presence.strictest (fields.map (·.presence)) ≠ .required
  | some x =>
    Presence.strictest (fields.map (·.presence)) = .optional ∧ x.isUndefined = true
      ∨ ∀ f ∈ fields, f.shape.accepts x = true

/-- What operands ask of the entries of a record, whatever the brackets. -/
structure Demand (operands : List Operand) (entries : List (String × Value)) : Prop where
  fields : ∀ name ∈ names operands,
    Admit (fieldsNamed operands name) (Entries.get? entries name)
  values : ∀ d, dict d ∈ operands → ∀ entry ∈ entries, d.value.accepts entry.2 = true
  /-- Keys are only forbidden if everything is an exact record shape. -/
  keys : (∀ o ∈ operands, o.isExact = true) → ∀ entry ∈ entries, entry.1 ∈ names operands

/-- What operands keep of a record that they accept, whatever the brackets. -/
structure Keeps (operands : List Operand) (v : Value) (entries : List (String × Value))
    (kept : Value) : Prop where
  records : (∀ o ∈ operands, o.isRecord = true) →
    ∃ named, kept = .object named ∧ Entries.SelectedBy (names operands) entries named
  /-- Beside a dictionary no entry is lost. Those without a field come last, as they stood. -/
  mixed : (∃ o ∈ operands, o.isRecord = true) → (∃ o ∈ operands, o.isRecord = false) →
    ∃ named, kept = .object (named ++ entries.filter fun entry => entry.1 ∉ names operands)
      ∧ Entries.SelectedBy (names operands) entries named
  dicts : (∀ o ∈ operands, o.isRecord = false) → kept = v

theorem mem_dicts_iff {operands : List Operand} {d : DictShape Shape} :
    d ∈ operands.filterMap (·.constraint.dict?) ↔ dict d ∈ operands := by
  rw [List.mem_filterMap]
  constructor
  · rintro ⟨o, ho, hd⟩
    cases o with
    | record => cases hd
    | dict e =>
      cases hd
      exact ho
  · intro hd
    exact ⟨dict d, hd, rfl⟩

theorem dicts_eq_nil_iff {operands : List Operand} :
    operands.filterMap (·.constraint.dict?) = [] ↔ ∀ o ∈ operands, o.isRecord = true := by
  rw [List.filterMap_eq_nil_iff]
  refine forall₂_congr fun o _ => ?_
  cases o <;> simp [constraint, isRecord]

theorem records_eq_nil_iff {operands : List Operand} :
    operands.filterMap (·.constraint.record?) = [] ↔ ∀ o ∈ operands, o.isRecord = false := by
  rw [List.filterMap_eq_nil_iff]
  refine forall₂_congr fun o _ => ?_
  cases o <;> simp [constraint, isRecord]

theorem all_isExact_iff {operands : List Operand} :
    (∀ o ∈ operands, o.isExact = true) ↔
      operands.filterMap (·.constraint.dict?) = []
        ∧ (operands.filterMap (·.constraint.record?)).all (·.exact) = true := by
  induction operands with
  | nil => simp
  | cons o operands ih =>
    rw [List.forall_mem_cons, ih]
    cases o with
    | record r distinct => simp [isExact, constraint, and_left_comm]
    | dict d => simp [isExact, constraint]

end Operand

/-- A field that stands for several asks for what they ask for. -/
theorem Field.admits_iff_admit {f : Field Shape} {fs : List (Field Shape)} {x? : Option Value}
    (hpresence : f.presence = .strictest (fs.map (·.presence)))
    (hshape : f.shape.Conjoins (fs.map (·.shape))) : f.Admits x? ↔ Operand.Admit fs x? := by
  cases x? with
  | none => simp only [Field.Admits, Operand.Admit, hpresence]
  | some x =>
    simp only [Field.Admits, Operand.Admit, hpresence, hshape.accepts, List.forall_mem_map]

namespace Bracketing

variable {b : Bracketing} {v : Value} {entries : List (String × Value)}

theorem keys_constraint (b : Bracketing) :
    Entries.keys b.constraint.fields = Operand.names b.operands := by
  rw [b.outlines.names, List.flatMap_map]
  rfl

theorem keys_of_record? (b : Bracketing) {r : RecordShape Shape}
    (h : b.constraint.record? = some r) : Entries.keys r.fields = Operand.names b.operands := by
  rw [← keys_constraint]
  cases hc : b.constraint <;> rw [hc] at h <;> cases h <;> rfl

theorem gathers_dicts (b : Bracketing) : Gathers (fun _ _ => True) b.constraint.dict?
    (b.operands.filterMap (·.constraint.dict?)) := by
  have h := b.outlines.dict
  rwa [List.filterMap_map] at h

theorem gathers_records (b : Bracketing) :
    Gathers (fun r rs => r.exact = rs.all (·.exact)) b.constraint.record?
      (b.operands.filterMap (·.constraint.record?)) := by
  have h := b.outlines.exact
  rwa [List.filterMap_map] at h

/-- What the constraint asks for is what the operands ask for, name by name and in one for the
dictionaries. -/
theorem holdsOn_constraint_iff (h : ∀ o ∈ b.operands, o.Plain) :
    b.constraint.HoldsOn entries ↔
      (∀ name ∈ Operand.names b.operands,
        Operand.Admit (Operand.fieldsNamed b.operands name) (Entries.get? entries name))
        ∧ ∀ d, .dict d ∈ b.operands → ∀ entry ∈ entries, d.value.accepts entry.2 = true := by
  have hconjoins := conjoins h
  rw [Constraint.holdsOn_iff_get? b.distinct_constraint]
  refine and_congr (forall_congr' fun name => ?_) ?_
  · have hpresences := b.outlines.presences name
    have hshapes := hconjoins.fields name
    rw [List.filterMap_map] at hpresences hshapes
    rw [← keys_constraint, ← Entries.isSome_get?_iff]
    cases hget : Entries.get? b.constraint.fields name with
    | none => simp
    | some f =>
      rw [hget] at hpresences hshapes
      simp only [Option.some.injEq, forall_eq', Option.isSome_some, forall_const]
      exact Field.admits_iff_admit hpresences.of_some hshapes.of_some
  · have hvalues := hconjoins.values
    rw [List.filterMap_map] at hvalues
    simp only [← Operand.mem_dicts_iff]
    cases hdict : b.constraint.dict? with
    | none =>
      have hnil := b.gathers_dicts.eq_none_iff.1 hdict
      simp [hnil]
    | some d =>
      rw [hdict] at hvalues
      simp only [Option.some.injEq, forall_eq', hvalues.of_some.accepts, List.forall_mem_map]
      constructor
      · intro hall e he entry hentry
        exact hall entry hentry e he
      · intro hall entry hentry e he
        exact hall e he entry hentry

/-- Unknown keys are forbidden where all operands forbid them. -/
theorem forbidden_constraint_iff (hv : v.record? = some entries) :
    b.constraint.report.forbidden v = [] ↔
      ((∀ o ∈ b.operands, o.isExact = true) →
        ∀ entry ∈ entries, entry.1 ∈ Operand.names b.operands) := by
  rw [Operand.all_isExact_iff, ← keys_constraint]
  have hdicts := b.gathers_dicts
  have hrecords := b.gathers_records
  cases hc : b.constraint with
  | record r =>
    rw [hc] at hdicts hrecords
    have hnil := hdicts.eq_none_iff.1 rfl
    have hexact := hrecords.of_some
    rw [hnil, ← hexact]
    cases hr : r.exact with
    | false => simp [Constraint.report, KeyReport.forbidden, hr]
    | true => simp [Constraint.report, KeyReport.forbidden, hr, hv, Constraint.fields]
  | dict d | both r d =>
    -- Beside a dictionary nothing is forbidden, and the dictionary is no exact record shape.
    rw [hc] at hdicts
    have hne : b.operands.filterMap (·.constraint.dict?) ≠ [] := by
      rw [ne_eq, ← hdicts.eq_none_iff]
      exact Option.some_ne_none d
    exact iff_of_true rfl fun hall => absurd hall.1 hne

/-- What the constraint keeps is what the operands keep. -/
theorem keeps_constraint (b : Bracketing) (v : Value) (entries : List (String × Value)) :
    Operand.Keeps b.operands v entries (b.constraint.kept v entries) := by
  have hdicts : b.constraint.dict? = none ↔ ∀ o ∈ b.operands, o.isRecord = true :=
    b.gathers_dicts.eq_none_iff.trans Operand.dicts_eq_nil_iff
  have hrecords : b.constraint.record? = none ↔ ∀ o ∈ b.operands, o.isRecord = false :=
    b.gathers_records.eq_none_iff.trans Operand.records_eq_nil_iff
  have hselected := KeyReport.selectedBy_select (Operand.names b.operands) entries
  cases hc : b.constraint with
  | record r =>
    rw [hc] at hdicts hrecords
    have hnames := b.keys_of_record? (congrArg Constraint.record? hc)
    have hall := hdicts.1 rfl
    refine ⟨fun _ => ⟨_, ?_, hselected⟩, ?_, ?_⟩
    · rw [← hnames]
      rfl
    · rintro - ⟨o, ho, hdict⟩
      exact absurd (hall o ho) (by simp [hdict])
    · intro hnone
      exact absurd (hrecords.2 hnone) (Option.some_ne_none r)
  | dict d =>
    rw [hc] at hdicts hrecords
    have hnone := hrecords.1 rfl
    refine ⟨?_, ?_, fun _ => rfl⟩
    · intro hall
      exact absurd (hdicts.2 hall) (Option.some_ne_none d)
    · rintro ⟨o, ho, hrecord⟩
      exact absurd (hnone o ho) (by simp [hrecord])
  | both r d =>
    rw [hc] at hdicts hrecords
    have hnames := b.keys_of_record? (congrArg Constraint.record? hc)
    refine ⟨?_, fun _ _ => ⟨_, ?_, hselected⟩, ?_⟩
    · intro hall
      exact absurd (hdicts.2 hall) (Option.some_ne_none d)
    · rw [← hnames]
      simp [Constraint.kept, Constraint.record?, Constraint.dict?, Shape.arrange]
    · intro hnone
      exact absurd (hrecords.2 hnone) (Option.some_ne_none r)

end Bracketing

/-- What is accepted and kept by operands in brackets is what the operands ask for and keep, where
the shapes inside them lead to no constraint on records. -/
theorem bracketing_normalForm {b : Bracketing} (h : ∀ o ∈ b.operands, o.Plain) (v : Value) :
    (b.shape.accepts v = true ↔
      ∃ entries, v.record? = some entries ∧ Operand.Demand b.operands entries)
      ∧ ∀ entries, v.record? = some entries → b.shape.accepts v = true →
        ∃ kept, b.shape.slice v = .ok kept ∧ Operand.Keeps b.operands v entries kept := by
  have hc := b.shape_constraint?
  constructor
  · rw [Shape.accepts_of_constraint? hc]
    refine exists_congr fun entries => and_congr_right fun hv => ?_
    rw [Bracketing.holdsOn_constraint_iff h, Bracketing.forbidden_constraint_iff hv]
    constructor
    · rintro ⟨⟨hfields, hvalues⟩, hkeys⟩
      exact ⟨hfields, hvalues, hkeys⟩
    · intro hdemand
      exact ⟨⟨hdemand.fields, hdemand.values⟩, hdemand.keys⟩
  · intro entries hv hok
    exact ⟨_, Shape.slice_of_constraint? hc hv hok, b.keeps_constraint v entries⟩

/-- A field that may be missing in the first operand has to be there for a later one, and is kept
where the first names it. -/
theorem bracketing_normalForm_three :
    ((Shape.record ⟨[("x", ⟨.any, .optional⟩)], true⟩).and ((Shape.dict ⟨none, .any⟩).and
      (Shape.record ⟨[("y", ⟨.tagged .boolean, .required⟩), ("x", ⟨.any, .required⟩)],
        true⟩))).accepts (.object [("z", .null), ("y", .bool true)]) = false
      ∧ ∃ named,
        ((Shape.record ⟨[("x", ⟨.any, .optional⟩)], true⟩).and ((Shape.dict ⟨none, .any⟩).and
          (Shape.record ⟨[("y", ⟨.tagged .boolean, .required⟩), ("x", ⟨.any, .required⟩)],
            true⟩))).slice (.object [("z", .null), ("y", .bool true), ("x", .null)])
          = .ok (.object (named ++ [("z", .null)]))
        ∧ Entries.SelectedBy ["x", "y"] [("z", .null), ("y", .bool true), ("x", .null)] named := by
  have hplain : ∀ o ∈ (Bracketing.pair (.operand (.record ⟨[("x", ⟨.any, .optional⟩)], true⟩
      (by simp))) (.pair (.operand (.dict ⟨none, .any⟩)) (.operand (.record
      ⟨[("y", ⟨.tagged .boolean, .required⟩), ("x", ⟨.any, .required⟩)], true⟩
      (by simp))))).operands, o.Plain := by
    intro o ho
    simp only [Bracketing.operands, List.mem_append, List.mem_singleton] at ho
    rcases ho with rfl | rfl | rfl <;>
      simp [Operand.Plain, Operand.constraint, Constraint.parts, Constraint.fields,
        Shape.reachesConstraint]
  constructor
  · refine Bool.eq_false_iff.2 fun haccepts => ?_
    obtain ⟨entries, hentries, hdemand⟩ := (bracketing_normalForm hplain _).1.1 haccepts
    cases hentries
    exact hdemand.fields "x" (by decide) rfl
  · obtain ⟨kept, hslice, hkeeps⟩ := (bracketing_normalForm hplain
      (.object [("z", .null), ("y", .bool true), ("x", .null)])).2 _ rfl rfl
    obtain ⟨named, rfl, hselected⟩ := hkeeps.mixed ⟨_, List.mem_cons_self, rfl⟩
      ⟨_, .tail _ List.mem_cons_self, rfl⟩
    exact ⟨named, hslice, hselected⟩

end ShapeCheck
