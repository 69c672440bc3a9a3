import ShapeCheck.Proofs.Built
import ShapeCheck.Proofs.Matching

/-!
# Intersections as meets

As long as no record shape forbids unknown keys, a value is accepted exactly if it matches up to its
keys, and matching goes through unions, intersections and comments without looking at the kinds of
shapes inside. On every route that an intersection can take, what matches it matches both shapes.
The other direction needs a value without undefined entries: where an optional field meets a
stricter one, the undefined value no longer stands for a missing one.
-/

namespace ShapeCheck

namespace Field

variable {f g : Field Shape} {x? : Option Value}

/-- What two fields ask for as one, each of them asks for. -/
theorem Admits.of_and
    (hmeet : ∀ x, (f.shape.and g.shape).accepts x = true →
      f.shape.accepts x = true ∧ g.shape.accepts x = true)
    (h : (f.and g).Admits x?) : f.Admits x? ∧ g.Admits x? := by
  cases x? with
  | none =>
    have hpresence : ¬(f.presence = .required ∨ g.presence = .required) :=
      fun hreq => h (Presence.stricter_eq_required_iff.2 hreq)
    exact not_or.1 hpresence
  | some x =>
    obtain ⟨hpresence, hx⟩ | hx := h
    · obtain ⟨hf, hg⟩ := Presence.stricter_eq_optional_iff.1 hpresence
      exact ⟨.inl ⟨hf, hx⟩, .inl ⟨hg, hx⟩⟩
    · obtain ⟨hf, hg⟩ := hmeet x hx
      exact ⟨.inr hf, .inr hg⟩

/-- Two fields as one ask for no more than both, unless the value is undefined. -/
theorem Admits.and
    (hmeet : ∀ x, x? = some x → x.isUndefined = false ∧
      (f.shape.accepts x = true → g.shape.accepts x = true →
        (f.shape.and g.shape).accepts x = true))
    (hf : f.Admits x?) (hg : g.Admits x?) : (f.and g).Admits x? := by
  cases x? with
  | none =>
    intro hreq
    obtain hreq | hreq := Presence.stricter_eq_required_iff.1 hreq
    · exact hf hreq
    · exact hg hreq
  | some x =>
    obtain ⟨hdefined, hboth⟩ := hmeet x rfl
    have strict {k : Field Shape} (hk : k.Admits (some x)) : k.shape.accepts x = true :=
      hk.resolve_left fun ⟨_, hx⟩ => by simp [hdefined] at hx
    exact .inr (hboth (strict hf) (strict hg))

end Field

namespace Shape

/-- What two constraints ask for as one, each of them asks for. -/
theorem holdsOn_of_andConstraints {a b : Constraint Shape} (ha : (Entries.keys a.fields).Nodup)
    (hb : (Entries.keys b.fields).Nodup) {entries : List (String × Value)}
    (hmeet : ∀ t ∈ a.parts, ∀ u ∈ b.parts, ∀ x, (t.and u).accepts x = true →
      t.accepts x = true ∧ u.accepts x = true)
    (h : (andConstraints a b).HoldsOn entries) : a.HoldsOn entries ∧ b.HoldsOn entries := by
  obtain ⟨hfields, hvalues⟩ :=
    (Constraint.holdsOn_iff_get? (nodup_keys_andConstraints ha hb)).1 h
  simp only [get?_fields_andConstraints, dict?_andConstraints] at hfields hvalues
  have shared {name : String} {f g : Field Shape} (hf : Entries.get? a.fields name = some f)
      (hg : Entries.get? b.fields name = some g) :
      f.Admits (Entries.get? entries name) ∧ g.Admits (Entries.get? entries name) := by
    refine Field.Admits.of_and ?_ (hfields name (f.and g) (by rw [hf, hg, Option.merge_some_some]))
    exact hmeet _ (Constraint.mem_parts_of_field (Entries.mem_of_get? hf)) _
      (Constraint.mem_parts_of_field (Entries.mem_of_get? hg))
  have sharedDict {d e : DictShape Shape} (hd : a.dict? = some d) (he : b.dict? = some e)
      {entry : String × Value} (hentry : entry ∈ entries) :
      d.value.accepts entry.2 = true ∧ e.value.accepts entry.2 = true := by
    have hboth := hvalues (andDicts d e) (by rw [hd, he, Option.merge_some_some]) entry hentry
    rw [value_andDicts] at hboth
    exact hmeet _ (Constraint.mem_parts_of_dict? hd) _ (Constraint.mem_parts_of_dict? he) _ hboth
  constructor
  · refine (Constraint.holdsOn_iff_get? ha).2 ⟨?_, ?_⟩
    · intro name f hf
      cases hg : Entries.get? b.fields name with
      | none => exact hfields name f (by rw [hf, hg, Option.merge_none_right])
      | some g => exact (shared hf hg).1
    · intro d hd
      cases he : b.dict? with
      | none => exact hvalues d (by rw [hd, he, Option.merge_none_right])
      | some e => exact fun entry hentry => (sharedDict hd he hentry).1
  · refine (Constraint.holdsOn_iff_get? hb).2 ⟨?_, ?_⟩
    · intro name g hg
      cases hf : Entries.get? a.fields name with
      | none => exact hfields name g (by rw [hf, hg, Option.merge_none_left])
      | some f => exact (shared hf hg).2
    · intro e he
      cases hd : a.dict? with
      | none => exact hvalues e (by rw [hd, he, Option.merge_none_left])
      | some d => exact fun entry hentry => (sharedDict hd he hentry).2

/-- Two constraints as one ask for no more than both, of entries that are not undefined. -/
theorem holdsOn_andConstraints {a b : Constraint Shape} (ha : (Entries.keys a.fields).Nodup)
    (hb : (Entries.keys b.fields).Nodup) {entries : List (String × Value)}
    (hmeet : ∀ entry ∈ entries, entry.2.isUndefined = false ∧ ∀ t ∈ a.parts, ∀ u ∈ b.parts,
      t.accepts entry.2 = true → u.accepts entry.2 = true → (t.and u).accepts entry.2 = true)
    (hA : a.HoldsOn entries) (hB : b.HoldsOn entries) : (andConstraints a b).HoldsOn entries := by
  obtain ⟨hfieldsA, hvaluesA⟩ := (Constraint.holdsOn_iff_get? ha).1 hA
  obtain ⟨hfieldsB, hvaluesB⟩ := (Constraint.holdsOn_iff_get? hb).1 hB
  refine (Constraint.holdsOn_iff_get? (nodup_keys_andConstraints ha hb)).2 ⟨?_, ?_⟩
  · intro name h hh
    rw [get?_fields_andConstraints, Option.merge_eq_some_iff] at hh
    obtain ⟨hf, -⟩ | ⟨-, hg⟩ | ⟨f, g, hf, hg, rfl⟩ := hh
    · exact hfieldsA name h hf
    · exact hfieldsB name h hg
    · refine .and ?_ (hfieldsA name f hf) (hfieldsB name g hg)
      intro x hx
      obtain ⟨hdefined, hparts⟩ := hmeet (name, x) (Entries.mem_of_get? hx)
      exact ⟨hdefined, hparts _ (Constraint.mem_parts_of_field (Entries.mem_of_get? hf)) _
        (Constraint.mem_parts_of_field (Entries.mem_of_get? hg))⟩
  · intro d hd entry hentry
    rw [dict?_andConstraints, Option.merge_eq_some_iff] at hd
    obtain ⟨hd, -⟩ | ⟨-, he⟩ | ⟨d, e, hd, he, rfl⟩ := hd
    · exact hvaluesA d hd entry hentry
    · exact hvaluesB d he entry hentry
    · rw [value_andDicts]
      exact (hmeet entry hentry).2 _ (Constraint.mem_parts_of_dict? hd) _
        (Constraint.mem_parts_of_dict? he) (hvaluesA d hd entry hentry) (hvaluesB e he entry hentry)

/-- A well-formed shape that forbids no unknown keys, on no level. -/
structure Tolerant (s : Shape) : Prop where
  formed : s.Formed
  exactFree : s.ExactFree

namespace Tolerant

variable {s t : Shape}

theorem part (h : s.Tolerant) (ht : t ∈ s.parts) : t.Tolerant :=
  ⟨h.formed.part ht, h.exactFree.part ht⟩

theorem and {a b : Shape} (ha : a.Tolerant) (hb : b.Tolerant) : (a.and b).Tolerant :=
  ⟨ha.formed.and WellFormed.keptByAnd hb.formed, ha.exactFree.and hb.exactFree⟩

theorem exact_report (h : s.Tolerant) {v : Value} {report : KeyReport}
    (hreport : s.report? v = some report) : report.exact = false := by
  induction s using induction_on_parts generalizing report with
  | step s ih =>
    have ofConstraint {c : Constraint Shape} (hc : s.constraint? = some c) :
        report.exact = false := by
      obtain ⟨-, -, -, rfl⟩ := (report?_of_constraint? hc).1 hreport
      have hopen {r} := h.exactFree.exact_eq_false h.formed hc (r := r)
      cases c with
      | record r => exact hopen rfl
      | dict | both => rfl
    cases s with
    | record | dict | merged => exact ofConstraint rfl
    | commented text inner =>
      have hinner : inner ∈ (commented text inner).parts := by simp [parts]
      exact ih inner hinner (h.part hinner) hreport
    | union left right =>
      have hleft : left ∈ (union left right).parts := by simp [parts]
      have hright : right ∈ (union left right).parts := by simp [parts]
      rw [report?_union, Option.or_eq_some_iff] at hreport
      obtain hreport | ⟨-, hreport⟩ := hreport
      · exact ih left hleft (h.part hleft) hreport
      · exact ih right hright (h.part hright) hreport
    | inter left right =>
      have hleft : left ∈ (inter left right).parts := by simp [parts]
      have hright : right ∈ (inter left right).parts := by simp [parts]
      obtain ⟨a, b, ha, hb, rfl⟩ := report?_inter_eq_some_iff.1 hreport
      have hexactA := ih left hleft (h.part hleft) ha
      have hexactB := ih right hright (h.part hright) hb
      rcases reportOfSides_cases left right a b with heq | heq | heq <;>
        simp [heq, KeyReport.both, hexactA, hexactB]
    | _ =>
      rw [report?_eq_untracked rfl hreport]
      rfl

/-- Without exactness a value that matches up to its keys is accepted. -/
theorem accepts_iff_matches (h : s.Tolerant) {v : Value} : s.accepts v = true ↔ s.Matches v := by
  rw [accepts_iff_report?]
  constructor
  · rintro ⟨report, hreport, -⟩
    exact ⟨report, hreport⟩
  · rintro ⟨report, hreport⟩
    exact ⟨report, hreport, KeyReport.forbidden_of_not_exact (h.exact_report hreport)⟩

end Tolerant

/-- A shape that matches what two others both match, as far as no undefined entry is concerned. -/
structure IsMeet (a b s : Shape) : Prop where
  left : ∀ v, s.Matches v → a.Matches v
  right : ∀ v, s.Matches v → b.Matches v
  both : ∀ v, v.Defined → a.Matches v → b.Matches v → s.Matches v

namespace IsMeet

variable {a b b₁ b₂ s s₁ s₂ : Shape}

theorem sideBySide (a b : Shape) : IsMeet a b (inter a b) where
  left _ h := (matches_inter.1 h).1
  right _ h := (matches_inter.1 h).2
  both _ _ ha hb := matches_inter.2 ⟨ha, hb⟩

theorem branches (h₁ : IsMeet a b₁ s₁) (h₂ : IsMeet a b₂ s₂) :
    IsMeet a (union b₁ b₂) (union s₁ s₂) where
  left v h := (matches_union.1 h).elim (h₁.left v) (h₂.left v)
  right v h := matches_union.2 ((matches_union.1 h).imp (h₁.right v) (h₂.right v))
  both v hv ha hb := matches_union.2 ((matches_union.1 hb).imp (h₁.both v hv ha) (h₂.both v hv ha))

/-- A constraint that both sides of an intersection take in is asked for twice. -/
theorem bothSides (h₁ : IsMeet a b₁ s₁) (h₂ : IsMeet a b₂ s₂) :
    IsMeet a (inter b₁ b₂) (inter s₁ s₂) where
  left v h := h₁.left v (matches_inter.1 h).1
  right v h := matches_inter.2 ((matches_inter.1 h).imp (h₁.right v) (h₂.right v))
  both v hv ha hb := matches_inter.2 ((matches_inter.1 hb).imp (h₁.both v hv ha) (h₂.both v hv ha))

theorem leftSide (h₁ : IsMeet a b₁ s₁) : IsMeet a (inter b₁ b₂) (inter s₁ b₂) where
  left v h := h₁.left v (matches_inter.1 h).1
  right v h := matches_inter.2 ((matches_inter.1 h).imp_left (h₁.right v))
  both v hv ha hb := matches_inter.2 ((matches_inter.1 hb).imp_left (h₁.both v hv ha))

theorem rightSide (h₂ : IsMeet a b₂ s₂) : IsMeet a (inter b₁ b₂) (inter b₁ s₂) where
  left v h := h₂.left v (matches_inter.1 h).2
  right v h := matches_inter.2 ((matches_inter.1 h).imp_right (h₂.right v))
  both v hv ha hb := matches_inter.2 ((matches_inter.1 hb).imp_right (h₂.both v hv ha))

/-- Two constraints meet in one if what is inside them does. -/
theorem constraints (ha : a.Tolerant) (hb : b.Tolerant) {ca cb : Constraint Shape}
    (hca : a.constraint? = some ca) (hcb : b.constraint? = some cb)
    (inside : ∀ t ∈ ca.parts, ∀ u ∈ cb.parts, IsMeet t u (t.and u)) :
    IsMeet a b (merged a b (andConstraints ca cb)) := by
  have hna := ha.formed.here.distinct ca hca
  have hnb := hb.formed.here.distinct cb hcb
  have tolerant {t u : Shape} (ht : t ∈ ca.parts) (hu : u ∈ cb.parts) : t.Tolerant ∧ u.Tolerant :=
    ⟨ha.part (mem_parts_of_constraint? hca ht), hb.part (mem_parts_of_constraint? hcb hu)⟩
  have narrow (v : Value) (h : (merged a b (andConstraints ca cb)).Matches v) :
      a.Matches v ∧ b.Matches v := by
    obtain ⟨entries, hv, hc⟩ := (matches_of_constraint? rfl).1 h
    have hsides : ca.HoldsOn entries ∧ cb.HoldsOn entries := by
      refine holdsOn_of_andConstraints hna hnb ?_ hc
      intro t ht u hu x hx
      obtain ⟨htt, hut⟩ := tolerant ht hu
      have hmatches := (htt.and hut).accepts_iff_matches.1 hx
      exact ⟨htt.accepts_iff_matches.2 ((inside t ht u hu).left x hmatches),
        hut.accepts_iff_matches.2 ((inside t ht u hu).right x hmatches)⟩
    exact ⟨(matches_of_constraint? hca).2 ⟨entries, hv, hsides.1⟩,
      (matches_of_constraint? hcb).2 ⟨entries, hv, hsides.2⟩⟩
  refine ⟨fun v h => (narrow v h).1, fun v h => (narrow v h).2, ?_⟩
  -- Inside, acceptance and matching are the same, and every entry is as defined as the value.
  intro v hdefined hma hmb
  obtain ⟨entries, hv, hA⟩ := (matches_of_constraint? hca).1 hma
  obtain ⟨entries', hv', hB⟩ := (matches_of_constraint? hcb).1 hmb
  obtain rfl : entries = entries' := Option.some.inj (hv.symm.trans hv')
  refine (matches_of_constraint? rfl).2 ⟨entries, hv, holdsOn_andConstraints hna hnb ?_ hA hB⟩
  intro entry hentry
  refine ⟨hdefined.entry_defined hv hentry, fun t ht u hu htx hux => ?_⟩
  obtain ⟨htt, hut⟩ := tolerant ht hu
  exact (htt.and hut).accepts_iff_matches.2 ((inside t ht u hu).both entry.2
    (hdefined.inside_entry hv hentry) (htt.accepts_iff_matches.1 htx)
    (hut.accepts_iff_matches.1 hux))

end IsMeet

/-- Every route of an intersection leads to a meet. -/
theorem Tolerant.isMeet_and {a b : Shape} (ha : a.Tolerant) (hb : b.Tolerant) :
    IsMeet a b (a.and b) := by
  revert ha hb
  apply and_induction (R := fun a b s => a.Tolerant → b.Tolerant → IsMeet a b s)
  case underLeft =>
    intro text a b s ih ha hb
    have hinner := ih (ha.part (by simp [parts])) hb
    exact ⟨hinner.left, hinner.right, hinner.both⟩
  case underRight =>
    intro text a b s ih ha hb
    have hinner := ih ha (hb.part (by simp [parts]))
    exact ⟨hinner.left, hinner.right, hinner.both⟩
  case branches =>
    intro a b₁ b₂ s₁ s₂ ih₁ ih₂ ha hb
    exact .branches (ih₁ ha (hb.part (by simp [parts]))) (ih₂ ha (hb.part (by simp [parts])))
  case bothSides =>
    intro a b₁ b₂ s₁ s₂ ih₁ ih₂ ha hb
    exact .bothSides (ih₁ ha (hb.part (by simp [parts]))) (ih₂ ha (hb.part (by simp [parts])))
  case leftSide =>
    intro a b₁ b₂ s₁ ih₁ ha hb
    exact .leftSide (ih₁ ha (hb.part (by simp [parts])))
  case rightSide =>
    intro a b₁ b₂ s₂ ih₂ ha hb
    exact .rightSide (ih₂ ha (hb.part (by simp [parts])))
  case sideBySide =>
    intro a b _ _ _
    exact .sideBySide a b
  case constraints =>
    intro a b ca cb hca hcb inside ha hb
    refine .constraints ha hb hca hcb ?_
    intro t ht u hu
    exact inside t ht u (ha.part (mem_parts_of_constraint? hca ht))
      (hb.part (mem_parts_of_constraint? hcb hu))

/-- Without exact record shapes, what an intersection accepts both of its shapes accept, and it
accepts whatever both accept and holds no undefined entry. -/
theorem and_accepts_both {a b : Shape} (ha : a.Built) (hb : b.Built) (hea : a.ExactFree)
    (heb : b.ExactFree) (v : Value) :
    ((a.and b).accepts v = true → a.accepts v = true ∧ b.accepts v = true)
      ∧ (v.Defined → a.accepts v = true → b.accepts v = true → (a.and b).accepts v = true) := by
  have hta : a.Tolerant := ⟨ha.formed, hea⟩
  have htb : b.Tolerant := ⟨hb.formed, heb⟩
  have hmeet := hta.isMeet_and htb
  rw [hta.accepts_iff_matches, htb.accepts_iff_matches, (hta.and htb).accepts_iff_matches]
  exact ⟨fun h => ⟨hmeet.left v h, hmeet.right v h⟩, hmeet.both v⟩

theorem and_accepts_both_shared :
    ((openRecord [("x", ⟨tagged .boolean, .optional⟩)]).and
      (openRecord [("x", ⟨any, .required⟩)])).accepts (.object [("x", .bool true)]) = true := by
  refine (and_accepts_both ?_ ?_ ?_ ?_ _).2 ?_ rfl rfl
  · exact .fields false (by simpa using .tagged .boolean)
  · exact .fields false (by simpa using .any)
  · exact .openRecord (by simpa using .of_parts rfl (List.forall_mem_nil _))
  · exact .openRecord (by simpa using .of_parts rfl (List.forall_mem_nil _))
  · refine .of_parts ?_ ?_
    · rintro entries ⟨⟩
      simp [Value.isUndefined]
    · simpa [Value.parts] using .of_parts nofun (List.forall_mem_nil _)

end Shape

end ShapeCheck
