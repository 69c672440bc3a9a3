import ShapeCheck.Proofs.Carrying
import ShapeCheck.Proofs.Meet

/-!
# Exchanging the sides of an intersection

Two constraints on records make one constraint in either order, and what it asks of an entry that
only one of them knows is the same. A shared field goes through the intersection of both shapes, and
there the order matters: a constraint on the left is carried into the right side, while a constraint
on the right is never carried into the left side but checked beside it. `Commutable` says where that
cannot be seen.
-/

namespace ShapeCheck

/-- Two shapes that two constraints ask one entry of a record for. -/
inductive Constraint.Overlap (c d : Constraint Shape) (entries : List (String × Value)) :
    Shape → Shape → Value → Prop where
  | field {name : String} {f g : Field Shape} {x : Value} (hf : Entries.get? c.fields name = some f)
      (hg : Entries.get? d.fields name = some g) (hx : Entries.get? entries name = some x) :
      Overlap c d entries f.shape g.shape x
  | value {e k : DictShape Shape} {entry : String × Value} (he : c.dict? = some e)
      (hk : d.dict? = some k) (hentry : entry ∈ entries) :
      Overlap c d entries e.value k.value entry.2

theorem Constraint.Overlap.mem_parts {c d : Constraint Shape} {entries : List (String × Value)}
    {t u : Shape} {x : Value} (h : c.Overlap d entries t u x) : t ∈ c.parts ∧ u ∈ d.parts := by
  cases h with
  | field hf hg hx =>
    exact ⟨mem_parts_of_field (Entries.mem_of_get? hf), mem_parts_of_field (Entries.mem_of_get? hg)⟩
  | value he hk hentry => exact ⟨mem_parts_of_dict? he, mem_parts_of_dict? hk⟩

/-- Combining what is there does not depend on the order unless both are there. -/
theorem merge_comm_or {α : Type} (m : α → α → α) (x y : Option α) :
    Option.merge m x y = Option.merge m y x ∨ ∃ a b, x = some a ∧ y = some b := by
  cases x with
  | none => exact .inl (by simp)
  | some a =>
    cases y with
    | none => exact .inl (by simp)
    | some b => exact .inr ⟨a, b, rfl, rfl⟩

namespace Shape

/-- Two fields of one name commute if their shapes do at the value that is there. -/
theorem admits_and_comm {f g : Field Shape} {x? : Option Value}
    (hx : ∀ x, x? = some x → (f.shape.and g.shape).accepts x = (g.shape.and f.shape).accepts x) :
    (f.and g).Admits x? ↔ (g.and f).Admits x? := by
  have hpresence : (f.and g).presence = (g.and f).presence :=
    Presence.stricter_comm f.presence g.presence
  cases x? with
  | none => simp only [Field.Admits, hpresence]
  | some x =>
    have haccepts : (f.and g).shape.accepts x = (g.and f).shape.accepts x := hx x rfl
    simp only [Field.Admits, hpresence, haccepts]

/-- Two constraints as one hold on the same entries in either order, if what they share does. -/
theorem holdsOn_andConstraints_comm {c d : Constraint Shape} (hc : (Entries.keys c.fields).Nodup)
    (hd : (Entries.keys d.fields).Nodup) {entries : List (String × Value)}
    (hshared : ∀ t u x, c.Overlap d entries t u x → (t.and u).accepts x = (u.and t).accepts x) :
    (andConstraints c d).HoldsOn entries ↔ (andConstraints d c).HoldsOn entries := by
  rw [Constraint.holdsOn_iff_get? (nodup_keys_andConstraints hc hd),
    Constraint.holdsOn_iff_get? (nodup_keys_andConstraints hd hc)]
  simp only [get?_fields_andConstraints, dict?_andConstraints]
  refine and_congr (forall_congr' fun name => ?_) ?_
  · obtain heq | ⟨f, g, hf, hg⟩ :=
      merge_comm_or Field.and (Entries.get? c.fields name) (Entries.get? d.fields name)
    · rw [heq]
    · simp only [hf, hg, Option.merge_some_some, Option.some.injEq, forall_eq']
      exact admits_and_comm fun x hx => hshared _ _ x (.field hf hg hx)
  · obtain heq | ⟨e, k, he, hk⟩ := merge_comm_or andDicts c.dict? d.dict?
    · rw [heq]
    · simp only [he, hk, Option.merge_some_some, Option.some.injEq, forall_eq', value_andDicts]
      refine forall₂_congr fun entry hentry => ?_
      rw [hshared _ _ _ (.value he hk hentry)]

/-- Where exchanging two shapes cannot be seen at a value. -/
inductive Commutable : Shape → Shape → Value → Prop where
  /-- Nothing inside the shapes forbids keys, and no entry inside the value is undefined. -/
  | tolerant {a b : Shape} {v : Value} (ha : a.ExactFree) (hb : b.ExactFree) (hv : v.Defined) :
      Commutable a b v
  /-- Neither shape is a constraint on records. -/
  | apart {a b : Shape} {v : Value} (ha : a.bare.constraint? = none)
      (hb : b.bare.constraint? = none) : Commutable a b v
  /-- Both shapes are constraints on records. Where both ask for one entry, the two shapes that they
  ask for are commutable there. -/
  | constraints {a b : Shape} {v : Value} {ca cb : Constraint Shape}
      (ha : a.bare.constraint? = some ca) (hb : b.bare.constraint? = some cb)
      (inside : ∀ entries, v.record? = some entries → ∀ t u x, ca.Overlap cb entries t u x →
        Commutable t u x) : Commutable a b v
  /-- The left shape is a constraint on records and the right one is none. The constraint meets
  those that the right shape leads to, and either no union follows a validation where the constraint
  is carried into it, or the left shape permits all keys of the value. -/
  | carried {a b : Shape} {v : Value} {c : Constraint Shape} (ha : a.bare.constraint? = some c)
      (hb : b.bare.constraint? = none) (hm : MeetsIn c b v)
      (hkeys : ¬b.TakesValidation v ∨ ∀ report, a.track v = .ok report → report.Permits v) :
      Commutable a b v
  | symm {a b : Shape} {v : Value} (h : Commutable b a v) : Commutable a b v

theorem accepts_and_comm_of_tolerant {a b : Shape} (ha : a.Tolerant) (hb : b.Tolerant) {v : Value}
    (hv : v.Defined) : (a.and b).accepts v = (b.and a).accepts v := by
  have hab := ha.isMeet_and hb
  have hba := hb.isMeet_and ha
  rw [Bool.eq_iff_iff, (ha.and hb).accepts_iff_matches, (hb.and ha).accepts_iff_matches]
  constructor
  · intro h
    exact hba.both v hv (hab.right v h) (hab.left v h)
  · intro h
    exact hab.both v hv (hba.right v h) (hba.left v h)

/-- A right side that is no constraint is checked beside a left side in either order. -/
theorem accepts_and_eq_inter_of_bare {a b : Shape} {v : Value} (h : b.bare.constraint? = none) :
    (b.and a).accepts v = (inter a b).accepts v := by
  rw [(Alike.and_of_bare h a).accepts_eq]
  exact accepts_eq_of_scope? (scope?_inter_comm b a v)

/-- Two constraints as one accept the same in either order, if what they share does. -/
theorem accepts_and_comm_of_constraint? {a b : Shape} {ca cb : Constraint Shape} {v : Value}
    (ha : a.bare.constraint? = some ca) (hb : b.bare.constraint? = some cb)
    (hholds : ∀ entries, v.record? = some entries →
      ((andConstraints ca cb).HoldsOn entries ↔ (andConstraints cb ca).HoldsOn entries)) :
    (a.and b).accepts v = (b.and a).accepts v := by
  have hmerged {s t : Shape} {c d : Constraint Shape} (hs : s.bare.constraint? = some c)
      (ht : t.bare.constraint? = some d) :
      Alike v (s.and t) (merged s.bare t.bare (andConstraints c d)) := by
    have hbares := Alike.and_bares (v := v) s t
    rwa [and_of_constraint? hs, absorb_of_constraint? ht] at hbares
  have hscope : (andConstraints ca cb).report.scope = (andConstraints cb ca).report.scope := by
    rw [Constraint.scope_report_andConstraints, Constraint.scope_report_andConstraints,
      KeyScope.meet_comm]
  rw [(hmerged ha hb).accepts_eq, (hmerged hb ha).accepts_eq, Bool.eq_iff_iff,
    accepts_of_constraint? rfl, accepts_of_constraint? rfl]
  refine exists_congr fun entries => and_congr_right fun hv => and_congr (hholds entries hv) ?_
  rw [← KeyReport.permits_iff, ← KeyReport.permits_iff, KeyReport.permits_iff_of_scope_eq hscope]

theorem Commutable.accepts_eq {a b : Shape} {v : Value} (h : Commutable a b v) (ha : a.Formed)
    (hb : b.Formed) : (a.and b).accepts v = (b.and a).accepts v := by
  induction h with
  | tolerant hea heb hv => exact accepts_and_comm_of_tolerant ⟨ha, hea⟩ ⟨hb, heb⟩ hv
  | apart hna hnb =>
    rw [(Alike.and_of_bare hna _).accepts_eq, accepts_and_eq_inter_of_bare hnb]
  | constraints hca hcb _ ih =>
    -- Names, presences and exactness do not depend on the order, and what is shared by induction.
    obtain ⟨hna, hpa⟩ := ha.of_mem_reached (mem_reached_of_bare hca)
    obtain ⟨hnb, hpb⟩ := hb.of_mem_reached (mem_reached_of_bare hcb)
    refine accepts_and_comm_of_constraint? hca hcb fun entries hv => ?_
    refine holdsOn_andConstraints_comm hna hnb fun t u x hoverlap => ?_
    obtain ⟨ht, hu⟩ := hoverlap.mem_parts
    exact ih entries hv t u x hoverlap (hpa t ht) (hpb u hu)
  | carried hca hnb hm hkeys =>
    rw [accepts_and_eq_inter_of_bare hnb]
    exact accepts_and_eq_inter hca hm
      (hkeys.imp_right fun h report hreport => h report (track_eq_ok_iff.2 hreport))
  | symm _ ih => exact (ih hb ha).symm

/-- Two shapes can be put together in either order wherever that cannot be seen. -/
theorem accepts_and_comm {a b : Shape} (ha : a.Built) (hb : b.Built) {v : Value}
    (h : Commutable a b v) : (a.and b).accepts v = (b.and a).accepts v :=
  h.accepts_eq ha.formed hb.formed

theorem accepts_and_comm_records :
    ((openRecord [("f", ⟨openRecord [("x", ⟨any, .optional⟩)], .required⟩)]).and
        (exactRecord [("f", ⟨(tagged .object).maybe, .optional⟩)])).accepts
        (.object [("f", .object [("x", .undefined)])])
      = ((exactRecord [("f", ⟨(tagged .object).maybe, .optional⟩)]).and
        (openRecord [("f", ⟨openRecord [("x", ⟨any, .optional⟩)], .required⟩)])).accepts
        (.object [("f", .object [("x", .undefined)])]) := by
  refine accepts_and_comm (.fields false ?_) (.fields true ?_) (.constraints rfl rfl ?_)
  · simpa using .fields false (by simpa using .any)
  · simpa using .or (.tagged .object) (.literal .null)
  · intro entries hv t u x hoverlap
    cases hv
    cases hoverlap with
    | @field name f g x hf hg hx =>
      have hname : (name, f) = ("f", ⟨openRecord [("x", ⟨any, .optional⟩)], .required⟩) :=
        List.mem_singleton.1 (Entries.mem_of_get? hf)
      cases hname
      cases hg
      cases hx
      -- What is null or an object leads to no constraint and has no validation as a branch.
      exact .carried rfl rfl (List.forall_mem_nil _)
        (.inl (by simp [maybe, Shape.or, TakesValidation, isValidation, Leaf.shape]))
    | value he hk hentry => cases he

/-- A field that is no constraint on records keeps a constraint inside it apart from one on its
right, and takes one on its left in. Apart, an optional field takes the undefined value that it
refuses as one with a required field. -/
theorem not_accepts_and_comm :
    ¬ ∀ fields others, (openRecord fields).Built → (openRecord others).Built → ∀ v,
      (((openRecord fields).and (openRecord others)).accepts v = true
        ↔ ((openRecord others).and (openRecord fields)).accepts v = true) := by
  intro h
  have hiff := h
    [("f", ⟨any.and (openRecord [("x", ⟨tagged .number, .optional⟩)]), .required⟩)]
    [("f", ⟨openRecord [("x", ⟨tagged .undefined, .required⟩)], .required⟩)]
    (.fields false (by simpa using .and .any (.fields false (by simpa using .tagged .number))))
    (.fields false (by simpa using .fields false (by simpa using .tagged .undefined)))
    (.object [("f", .object [("x", .undefined)])])
  have hfalse := hiff.1 rfl
  contradiction

end Shape

end ShapeCheck
