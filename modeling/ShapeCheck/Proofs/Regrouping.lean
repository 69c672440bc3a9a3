import ShapeCheck.Proofs.Alike
import ShapeCheck.Proofs.Meet

/-!
# Regrouping intersections

Whether three shapes are put together from the left or from the right makes no difference to the
names, presences and exactness of the constraint they end in. It may make one to what is inside: a
shared field whose shapes are no constraints is checked side by side, and then it depends on the
grouping which of the other two shapes are combined and which are checked apart. Apart they know of
each other neither unknown keys nor the undefined value. `Groupable` says where that cannot be seen.
-/

namespace ShapeCheck

/-- Combining what is there is associative unless all three are there. -/
theorem merge_assoc_or {α : Type} (m : α → α → α) (x y z : Option α) :
    Option.merge m (Option.merge m x y) z = Option.merge m x (Option.merge m y z)
      ∨ ∃ a b c, x = some a ∧ y = some b ∧ z = some c := by
  cases x with
  | none => exact .inl (by simp)
  | some a =>
    cases y with
    | none => exact .inl (by simp)
    | some b =>
      cases z with
      | none => exact .inl (by simp)
      | some c => exact .inr ⟨a, b, c, rfl, rfl, rfl⟩

/-- Three shapes that three constraints ask one entry of a record for. -/
inductive Constraint.Shared (a b c : Constraint Shape) (entries : List (String × Value)) :
    Shape → Shape → Shape → Value → Prop where
  | field {name : String} {f g h : Field Shape} {x : Value}
      (hf : Entries.get? a.fields name = some f) (hg : Entries.get? b.fields name = some g)
      (hh : Entries.get? c.fields name = some h) (hx : Entries.get? entries name = some x) :
      Shared a b c entries f.shape g.shape h.shape x
  | value {d e k : DictShape Shape} {entry : String × Value} (hd : a.dict? = some d)
      (he : b.dict? = some e) (hk : c.dict? = some k) (hentry : entry ∈ entries) :
      Shared a b c entries d.value e.value k.value entry.2

theorem Constraint.Shared.mem_parts {ca cb cc : Constraint Shape}
    {entries : List (String × Value)} {t u w : Shape} {x : Value}
    (h : Constraint.Shared ca cb cc entries t u w x) :
    t ∈ ca.parts ∧ u ∈ cb.parts ∧ w ∈ cc.parts := by
  cases h with
  | field hf hg hh hx =>
    exact ⟨Constraint.mem_parts_of_field (Entries.mem_of_get? hf),
      Constraint.mem_parts_of_field (Entries.mem_of_get? hg),
      Constraint.mem_parts_of_field (Entries.mem_of_get? hh)⟩
  | value hd he hk hentry =>
    exact ⟨Constraint.mem_parts_of_dict? hd, Constraint.mem_parts_of_dict? he,
      Constraint.mem_parts_of_dict? hk⟩

namespace Shape

/-- Whether three shapes accept a value or do not, whichever two are put together first. -/
def RegroupsAt (a b c : Shape) (v : Value) : Prop :=
  ((a.and b).and c).accepts v = (a.and (b.and c)).accepts v

theorem keys_andRecords_assoc (r s t : RecordShape Shape) :
    Entries.keys (andRecords (andRecords r s) t).fields
      = Entries.keys (andRecords r (andRecords s t)).fields := by
  simp only [keys_andRecords, List.removeAll, List.filter_append, List.filter_filter,
    List.append_assoc]
  congr 2
  refine List.filter_congr fun name _ => ?_
  rw [Bool.eq_iff_iff]
  simp only [List.elem_eq_mem, List.mem_append, List.mem_filter, Bool.not_eq_eq_eq_not,
    Bool.not_true, decide_eq_false_iff_not, Bool.and_eq_true]
  tauto

theorem report_andConstraints_assoc (a b c : Constraint Shape) :
    (andConstraints (andConstraints a b) c).report
      = (andConstraints a (andConstraints b c)).report := by
  cases a <;> cases b <;> cases c <;>
    simp [Constraint.report, keys_andRecords_assoc, Bool.and_assoc]

/-- Three fields of one name regroup if their shapes do at the value that is there. -/
theorem admits_and_assoc {f g h : Field Shape} {x? : Option Value}
    (hx : ∀ x, x? = some x → RegroupsAt f.shape g.shape h.shape x) :
    ((f.and g).and h).Admits x? ↔ (f.and (g.and h)).Admits x? := by
  have hpresence : ((f.and g).and h).presence = (f.and (g.and h)).presence :=
    Presence.stricter_assoc f.presence g.presence h.presence
  cases x? with
  | none => simp only [Field.Admits, hpresence]
  | some x =>
    have haccepts : ((f.and g).and h).shape.accepts x = (f.and (g.and h)).shape.accepts x :=
      hx x rfl
    simp only [Field.Admits, hpresence, haccepts]

theorem holdsOn_andConstraints_assoc {a b c : Constraint Shape}
    (ha : (Entries.keys a.fields).Nodup) (hb : (Entries.keys b.fields).Nodup)
    (hc : (Entries.keys c.fields).Nodup) {entries : List (String × Value)}
    (hshared : ∀ t u w x, Constraint.Shared a b c entries t u w x → RegroupsAt t u w x) :
    (andConstraints (andConstraints a b) c).HoldsOn entries
      ↔ (andConstraints a (andConstraints b c)).HoldsOn entries := by
  rw [Constraint.holdsOn_iff_get? (nodup_keys_andConstraints (nodup_keys_andConstraints ha hb) hc),
    Constraint.holdsOn_iff_get? (nodup_keys_andConstraints ha (nodup_keys_andConstraints hb hc))]
  simp only [get?_fields_andConstraints, dict?_andConstraints]
  refine and_congr (forall_congr' fun name => ?_) ?_
  · rcases merge_assoc_or Field.and (Entries.get? a.fields name)
      (Entries.get? b.fields name) (Entries.get? c.fields name) with heq | ⟨f, g, h, hf, hg, hh⟩
    · rw [heq]
    · simp only [hf, hg, hh, Option.merge_some_some, Option.some.injEq, forall_eq']
      exact admits_and_assoc fun x hx => hshared _ _ _ x (.field hf hg hh hx)
  · obtain heq | ⟨d, e, k, hd, he, hk⟩ := merge_assoc_or andDicts a.dict? b.dict? c.dict?
    · rw [heq]
    · simp only [hd, he, hk, Option.merge_some_some, Option.some.injEq, forall_eq', value_andDicts]
      refine forall_congr' fun entry => forall_congr' fun hentry => ?_
      rw [hshared _ _ _ _ (.value hd he hk hentry)]

/-- The constraints on records that are found through comments, unions and intersections. -/
def reached : Shape → List (Constraint Shape)
  | record r => [.record r]
  | dict d => [.dict d]
  | merged _ _ c => [c]
  | commented _ inner => inner.reached
  | union left right => left.reached ++ right.reached
  | inter left right => left.reached ++ right.reached
  | _ => []

theorem reached_of_constraint? {s : Shape} {c : Constraint Shape} (h : s.constraint? = some c) :
    s.reached = [c] := by
  cases s with
  | record | dict | merged =>
    cases h
    rfl
  | _ => cases h

theorem reached_eq_nil {s : Shape} (h : s.reachesConstraint = false) : s.reached = [] := by
  induction s using induction_on_parts with
  | step s ih =>
    cases s with
    | record | dict | merged => cases h
    | commented text inner => exact ih inner (by simp [parts]) h
    | union left right | inter left right =>
      obtain ⟨hl, hr⟩ := Bool.or_eq_false_iff.1 h
      rw [reached, ih left (by simp [parts]) hl, ih right (by simp [parts]) hr, List.append_nil]
    | _ => rfl

/-- What a constraint is carried into still reaches a constraint. -/
theorem reachesConstraint_absorb {whole : Shape} (hwhole : whole.reachesConstraint = true)
    (f : Constraint Shape → Constraint Shape) (s : Shape) :
    (absorb whole f s).reachesConstraint = true := by
  induction s using induction_on_parts with
  | step s ih =>
    cases s with
    | record | dict | merged => rfl
    | commented text inner => exact ih inner (by simp [parts])
    | union left right =>
      rw [absorb, reachesConstraint, ih left (by simp [parts]), Bool.true_or]
    | inter left right =>
      have hleft := ih left (by simp [parts])
      have hright := ih right (by simp [parts])
      rw [absorb]
      split <;> simp_all [reachesConstraint]
    | _ => simp [absorb, reachesConstraint, hwhole]

namespace Alike

variable {v : Value} {a b c s t : Shape}

/-- Two constraints that hold on the same records and report alike. -/
theorem of_constraint? {cs ct : Constraint Shape} (hs : s.constraint? = some cs)
    (ht : t.constraint? = some ct) (hreport : cs.report = ct.report)
    (hholds : ∀ entries, v.record? = some entries → (cs.HoldsOn entries ↔ ct.HoldsOn entries)) :
    Alike v s t := by
  refine ⟨Option.ext fun report => ?_,
    (isValidation_of_constraint? hs).trans (isValidation_of_constraint? ht).symm⟩
  rw [report?_of_constraint? hs, report?_of_constraint? ht, hreport]
  refine exists_congr fun entries => and_congr_right fun hv => ?_
  rw [hholds entries hv]

/-- Two constraints are carried into a third shape one after the other as they are in one, where
they agree with every constraint that the third shape leads to. -/
theorem regroup_of_constraint? {ca cb : Constraint Shape} (ha : a.constraint? = some ca)
    (hb : b.constraint? = some cb)
    (hc : ∀ cc ∈ c.reached, ∀ entries, v.record? = some entries →
      ((andConstraints (andConstraints ca cb) cc).HoldsOn entries
        ↔ (andConstraints ca (andConstraints cb cc)).HoldsOn entries)) :
    Alike v ((a.and b).and c) (a.and (b.and c)) := by
  have hab : a.and b = merged a b (andConstraints ca cb) := by
    rw [and_of_constraint? ha, absorb_of_constraint? hb]
  rw [hab, merged_and, and_of_constraint? ha, and_of_constraint? hb]
  have hreach (s : Shape) : (absorb b (andConstraints cb) s).reachesConstraint = true :=
    reachesConstraint_absorb (reachesConstraint_of_constraint? hb) _ s
  have hreachB := reachesConstraint_of_constraint? hb
  -- What the third shape does not lead to a constraint with stays beside the merged shape.
  have beside {s : Shape} (hs : s.reachesConstraint = false) :
      Alike v (.inter (merged a b (andConstraints ca cb)) s)
        (absorb a (andConstraints ca) (.inter b s)) := by
    rw [absorb, hreachB, hs, absorb_of_constraint? hb]
    exact refl v _
  induction c using induction_on_parts with
  | step c ih =>
    have constraint {cc : Constraint Shape} (hcc : c.constraint? = some cc) :
        Alike v
          (absorb (merged a b (andConstraints ca cb)) (andConstraints (andConstraints ca cb)) c)
          (absorb a (andConstraints ca) (absorb b (andConstraints cb) c)) := by
      rw [absorb_of_constraint? hcc, absorb_of_constraint? hcc]
      refine of_constraint? rfl rfl (report_andConstraints_assoc ca cb cc) ?_
      exact hc cc (by simp [reached_of_constraint? hcc])
    cases c with
    | record | dict | merged => exact constraint rfl
    | commented text c =>
      have hinner := ih c (by simp [parts]) hc
      exact (commented text _).trans (hinner.trans (commented text _).symm)
    | union l r =>
      have hleft := ih l (by simp [parts]) fun cc hcc => hc cc (List.mem_append_left _ hcc)
      have hright := ih r (by simp [parts]) fun cc hcc => hc cc (List.mem_append_right _ hcc)
      exact hleft.union hright
    | inter l r =>
      have hleft := ih l (by simp [parts]) fun cc hcc => hc cc (List.mem_append_left _ hcc)
      have hright := ih r (by simp [parts]) fun cc hcc => hc cc (List.mem_append_right _ hcc)
      cases hl : l.reachesConstraint <;> cases hr : r.reachesConstraint
      · have hwhole (whole : Shape) (f : Constraint Shape → Constraint Shape) :
            absorb whole f (.inter l r) = .inter whole (.inter l r) := by
          rw [absorb, hl, hr]
        rw [hwhole, hwhole]
        exact beside (by rw [reachesConstraint, hl, hr, Bool.or_false])
      · simp only [absorb, hl, hr, hreach]
        exact (refl v l).inter hright
      · simp only [absorb, hl, hr, hreach]
        exact hleft.inter (refl v r)
      · simp only [absorb, hl, hr, hreach]
        exact hleft.inter hright
    | _ => exact beside rfl

/-- Comments on the first two shapes stay outside, if the first one is a constraint. -/
theorem regroup_of_bare {ca : Constraint Shape} (ha : a.bare.constraint? = some ca)
    (h : Alike v ((a.bare.and b.bare).and c) (a.bare.and (b.bare.and c))) :
    Alike v ((a.and b).and c) (a.and (b.and c)) := by
  induction a using induction_on_parts with
  | step a iha =>
    obtain ⟨text, inner, rfl⟩ | hbare := commented_or_bare a
    · have hinner := iha inner (by simp [parts]) ha h
      exact (commented text _).trans (hinner.trans (commented text _).symm)
    · rw [hbare] at ha h
      clear iha hbare
      have hand (text : String) (s : Shape) :
          a.and (.commented text s) = .commented text (a.and s) := by
        rw [and_of_constraint? ha, and_of_constraint? ha, absorb_commented]
      induction b using induction_on_parts with
      | step b ihb =>
        obtain ⟨text, inner, rfl⟩ | hbare := commented_or_bare b
        · have hinner := ihb inner (by simp [parts]) h
          rw [hand, commented_and, commented_and, hand]
          exact (commented text _).trans (hinner.trans (commented text _).symm)
        · rwa [hbare] at h

/-- Shapes that are no constraints are only ever checked side by side. -/
theorem regroup_of_no_constraint (ha : a.bare.constraint? = none) (hb : b.bare.constraint? = none)
    (hab : a.isValidation = true → b.isValidation = false)
    (hbc : b.isValidation = true → c.isValidation = false) :
    Alike v ((a.and b).and c) (a.and (b.and c)) := by
  have hleft : Alike v ((a.and b).and c) (.inter (.inter a b) c) :=
    (and_of_bare (constraint?_bare_and ha b) c).trans ((and_of_bare ha b).inter (refl v c))
  have hright : Alike v (a.and (b.and c)) (.inter a (.inter b c)) :=
    (and_of_bare ha (b.and c)).trans ((refl v a).inter (and_of_bare hb c))
  exact hleft.trans ((inter_assoc hab hbc).trans hright.symm)

/-- A constraint that is carried into a second shape leaves a third one, which leads to none, beside
that shape. -/
theorem regroup_beside {ca : Constraint Shape} (ha : a.bare.constraint? = some ca)
    (hb : b.bare.constraint? = none) (hreach : b.reachesConstraint = true)
    (hc : c.reachesConstraint = false) (hbranch : c.validatesBranch = false) :
    Alike v ((a.and b).and c) (a.and (b.and c)) := by
  refine regroup_of_bare ha ((and_plain _ hc hbranch).trans ?_)
  obtain ⟨text, inner, hcomment⟩ | ⟨cb, hcb⟩ | ⟨-, hand⟩ := and_cases b.bare
  · exact absurd hcomment (bare_ne_commented b text inner)
  · rw [hb] at hcb
    cases hcb
  · rw [← reachesConstraint_bare] at hreach
    rw [hand, and_of_constraint? ha, and_of_constraint? ha, absorb, hreach, hc]
    exact refl v _

/-- A third shape that leads to no constraint is checked side by side. -/
theorem regroup_of_plain (hc : c.reachesConstraint = false)
    (hab : a.isValidation = true → b.isValidation = false)
    (hbc : b.isValidation = true → c.isValidation = false) (hbranchB : b.validatesBranch = false)
    (hbranchC : c.validatesBranch = false) : Alike v ((a.and b).and c) (a.and (b.and c)) := by
  have hassoc : Alike v (.inter (.inter a b) c) (.inter a (.inter b c)) := inter_assoc hab hbc
  have hleft (h : Alike v (a.and b) (.inter a b)) :
      Alike v ((a.and b).and c) (.inter (.inter a b) c) :=
    (and_plain _ hc hbranchC).trans (h.inter (refl v c))
  have hright (h : Alike v (a.and (b.and c)) (.inter a (b.and c))) :
      Alike v (a.and (b.and c)) (.inter a (.inter b c)) :=
    h.trans ((refl v a).inter (and_plain b hc hbranchC))
  cases ha : a.bare.constraint? with
  | none =>
    exact (hleft (and_of_bare ha b)).trans (hassoc.trans (hright (and_of_bare ha _)).symm)
  | some ca =>
    cases hb : b.bare.constraint? with
    | some cb =>
      refine regroup_of_bare ha (regroup_of_constraint? ha hb ?_)
      rw [reached_eq_nil hc]
      exact List.forall_mem_nil _
    | none =>
      cases hreach : b.reachesConstraint with
      | true => exact regroup_beside ha hb hreach hc hbranchC
      | false =>
        have hplain : (b.and c).reachesConstraint = false := by
          rw [reachesConstraint_and, hreach, hc, Bool.or_false]
        exact (hleft (and_plain a hreach hbranchB)).trans
          (hassoc.trans (hright (and_plain a hplain (validatesBranch_and hb c))).symm)

end Alike

/-- Where regrouping three shapes cannot be seen at a value. -/
inductive Groupable : Shape → Shape → Shape → Value → Prop where
  /-- Nothing inside the shapes forbids keys, and no entry inside the value is undefined. -/
  | tolerant {a b c : Shape} {v : Value} (ha : a.ExactFree) (hb : b.ExactFree) (hc : c.ExactFree)
      (hv : v.Defined) : Groupable a b c v
  /-- No shape leads to a constraint on records. -/
  | plain {a b c : Shape} {v : Value} (ha : a.reachesConstraint = false)
      (hb : b.reachesConstraint = false) (hc : c.reachesConstraint = false) : Groupable a b c v
  /-- The first two shapes are no constraints on records, and no two neighbours are validations. -/
  | apart {a b c : Shape} {v : Value} (ha : a.bare.constraint? = none)
      (hb : b.bare.constraint? = none) (hab : a.isValidation = true → b.isValidation = false)
      (hbc : b.isValidation = true → c.isValidation = false) : Groupable a b c v
  /-- The third shape leads to no constraint on records, no two neighbours are validations, and no
  union has one as a branch. -/
  | plainThird {a b c : Shape} {v : Value} (hc : c.reachesConstraint = false)
      (hab : a.isValidation = true → b.isValidation = false)
      (hbc : b.isValidation = true → c.isValidation = false)
      (hbranchB : b.validatesBranch = false) (hbranchC : c.validatesBranch = false) :
      Groupable a b c v
  /-- The first two shapes are constraints on records. Where they and a constraint that the third
  shape leads to all ask for one entry, the three shapes they ask for are groupable there. -/
  | constraints {a b c : Shape} {v : Value} {ca cb : Constraint Shape}
      (ha : a.bare.constraint? = some ca) (hb : b.bare.constraint? = some cb)
      (inside : ∀ cc ∈ c.reached, ∀ entries, v.record? = some entries →
        ∀ t u w x, Constraint.Shared ca cb cc entries t u w x → Groupable t u w x) :
      Groupable a b c v

/-- The constraints that a well-formed shape leads to are well-formed. -/
theorem Formed.of_mem_reached {s : Shape} (hs : s.Formed) {c : Constraint Shape}
    (hc : c ∈ s.reached) :
    (Entries.keys c.fields).Nodup ∧ ∀ t ∈ c.parts, t.Formed := by
  induction s using induction_on_parts with
  | step s ih =>
    have ofConstraint {c' : Constraint Shape} (hc' : s.constraint? = some c')
        (heq : c = c') : (Entries.keys c.fields).Nodup ∧ ∀ t ∈ c.parts, t.Formed := by
      subst heq
      exact ⟨hs.here.distinct c hc', fun t ht => hs.part (mem_parts_of_constraint? hc' ht)⟩
    cases s with
    | record | dict | merged => exact ofConstraint rfl (List.mem_singleton.1 hc)
    | commented text inner =>
      have hinner : inner ∈ (commented text inner).parts := by simp [parts]
      exact ih inner hinner (hs.part hinner) hc
    | union left right | inter left right =>
      obtain hc | hc := List.mem_append.1 hc
      · exact ih left (by simp [parts]) (hs.part (by simp [parts])) hc
      · exact ih right (by simp [parts]) (hs.part (by simp [parts])) hc
    | _ => cases hc

theorem mem_reached_of_bare {s : Shape} {c : Constraint Shape} (h : s.bare.constraint? = some c) :
    c ∈ s.reached := by
  induction s using induction_on_parts with
  | step s ih =>
    obtain ⟨text, inner, rfl⟩ | hbare := commented_or_bare s
    · exact ih inner (by simp [parts]) h
    · rw [hbare] at h
      simp [reached_of_constraint? h]

/-- Without exactness and undefined entries both groupings accept what all three shapes accept. -/
theorem Tolerant.regroupsAt {a b c : Shape} (ha : a.Tolerant) (hb : b.Tolerant) (hc : c.Tolerant)
    {v : Value} (hv : v.Defined) : RegroupsAt a b c v := by
  have hab := ha.isMeet_and hb
  have hbc := hb.isMeet_and hc
  have hleft := (ha.and hb).isMeet_and hc
  have hright := ha.isMeet_and (hb.and hc)
  rw [RegroupsAt, Bool.eq_iff_iff, ((ha.and hb).and hc).accepts_iff_matches,
    (ha.and (hb.and hc)).accepts_iff_matches]
  constructor
  · intro h
    have hmab := hleft.left v h
    exact hright.both v hv (hab.left v hmab) (hbc.both v hv (hab.right v hmab) (hleft.right v h))
  · intro h
    have hmbc := hright.right v h
    exact hleft.both v hv (hab.both v hv (hright.left v h) (hbc.left v hmbc)) (hbc.right v hmbc)

theorem regroupsAt_of_plain {a b c : Shape} (ha : a.reachesConstraint = false)
    (hb : b.reachesConstraint = false) (hc : c.reachesConstraint = false) (v : Value) :
    RegroupsAt a b c v := by
  have hab : (a.and b).reachesConstraint = false := by
    rw [reachesConstraint_and, ha, hb, Bool.or_false]
  have hbc : (b.and c).reachesConstraint = false := by
    rw [reachesConstraint_and, hb, hc, Bool.or_false]
  rw [RegroupsAt, Bool.eq_iff_iff, accepts_and_of_plain hab hc, accepts_and_of_plain ha hb,
    accepts_and_of_plain ha hbc, accepts_and_of_plain hb hc, and_assoc]

theorem Groupable.regroupsAt {a b c : Shape} {v : Value} (h : Groupable a b c v) (ha : a.Formed)
    (hb : b.Formed) (hc : c.Formed) : RegroupsAt a b c v := by
  induction h with
  | tolerant hea heb hec hv =>
    exact Tolerant.regroupsAt ⟨ha, hea⟩ ⟨hb, heb⟩ ⟨hc, hec⟩ hv
  | plain hpa hpb hpc => exact regroupsAt_of_plain hpa hpb hpc _
  | apart hna hnb hab hbc => exact (Alike.regroup_of_no_constraint hna hnb hab hbc).accepts_eq
  | plainThird hpc hab hbc hbranchB hbranchC =>
    exact (Alike.regroup_of_plain hpc hab hbc hbranchB hbranchC).accepts_eq
  | @constraints a b c v ca cb hca hcb _ ih =>
    -- The constraints on the top regroup by their outlines, and what they share by induction.
    obtain ⟨hna, hpa⟩ := ha.of_mem_reached (mem_reached_of_bare hca)
    obtain ⟨hnb, hpb⟩ := hb.of_mem_reached (mem_reached_of_bare hcb)
    refine (Alike.regroup_of_bare hca (Alike.regroup_of_constraint? hca hcb ?_)).accepts_eq
    intro cc hcc entries hv
    obtain ⟨hnc, hpc⟩ := hc.of_mem_reached hcc
    refine holdsOn_andConstraints_assoc hna hnb hnc fun t u w x hshared => ?_
    obtain ⟨ht, hu, hw⟩ := hshared.mem_parts
    exact ih cc hcc entries hv t u w x hshared (hpa t ht) (hpb u hu) (hpc w hw)

/-- Three shapes can be put together from either side wherever that cannot be seen. -/
theorem accepts_and_assoc {a b c : Shape} (ha : a.Built) (hb : b.Built) (hc : c.Built) {v : Value}
    (h : Groupable a b c v) : ((a.and b).and c).accepts v = (a.and (b.and c)).accepts v :=
  h.regroupsAt ha.formed hb.formed hc.formed

theorem accepts_and_assoc_dicts :
    (((dictOf any).and (dictOf (tagged .boolean))).and (dictOf (tagged .boolean))).accepts
        (.object [("x", .bool true)])
      = ((dictOf any).and ((dictOf (tagged .boolean)).and (dictOf (tagged .boolean)))).accepts
        (.object [("x", .bool true)]) := by
  have boolean : (dictOf (tagged .boolean)).Built := .dict none (.tagged .boolean)
  refine accepts_and_assoc (.dict none .any) boolean boolean (.constraints rfl rfl ?_)
  intro cc hcc entries hv t u w x hshared
  rw [List.mem_singleton.1 hcc] at hshared
  cases hshared with
  | field hf hg hh hx => cases hf
  | value hd he hk hentry =>
    cases hd
    cases he
    cases hk
    exact .plain rfl rfl rfl

/-- A field that is no constraint on records keeps the two others apart when it is put together with
one of them first, and apart an optional field takes the undefined value that it refuses as one with
a required field. -/
theorem accepts_and_not_assoc :
    ¬ ∀ a b c : Shape, a.Built → b.Built → c.Built → a.constraint?.isSome = true →
      b.constraint?.isSome = true → c.constraint?.isSome = true → ∀ v,
        (((a.and b).and c).accepts v = true ↔ (a.and (b.and c)).accepts v = true) := by
  intro h
  have hiff := h (openRecord [("f", ⟨any, .required⟩)])
    (openRecord [("f", ⟨openRecord [("x", ⟨tagged .number, .optional⟩)], .required⟩)])
    (openRecord [("f", ⟨openRecord [("x", ⟨tagged .undefined, .required⟩)], .required⟩)])
    (.fields false (by simpa using .any))
    (.fields false (by simpa using .fields false (by simpa using .tagged .number)))
    (.fields false (by simpa using .fields false (by simpa using .tagged .undefined)))
    rfl rfl rfl (.object [("f", .object [("x", .undefined)])])
  have hfalse := hiff.1 rfl
  contradiction

end Shape

end ShapeCheck
