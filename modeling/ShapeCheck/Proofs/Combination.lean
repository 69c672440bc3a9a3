import ShapeCheck.Proofs.Parts

/-!
# Combined constraints, side by side and name by name

Two constraints become one by combining their record shapes and their dictionaries, where a missing
side leaves the other one as it is. Two record shapes become one name by name in the same way. Both
are `Option.merge`, and with it the eight combinations of constraints are one case.
-/

namespace ShapeCheck

/-- Two fields of one name as one. -/
def Field.and (f g : Field Shape) : Field Shape :=
  ⟨f.shape.and g.shape, f.presence.stricter g.presence⟩

namespace Shape

@[simp] theorem keys_andFields (fields others : List (String × Field Shape)) :
    Entries.keys (andFields fields others) = Entries.keys fields := by
  induction fields with
  | nil => rfl
  | cons field rest ih =>
    obtain ⟨name, ⟨shape, presence⟩⟩ := field
    rw [andFields, Entries.keys_cons, Entries.keys_cons, ih]

theorem get?_andFields (fields others : List (String × Field Shape)) (name : String) :
    Entries.get? (andFields fields others) name
      = (Entries.get? fields name).map fun f => (Entries.get? others name).elim f f.and := by
  induction fields with
  | nil => rfl
  | cons field rest ih =>
    obtain ⟨key, ⟨shape, presence⟩⟩ := field
    by_cases hkey : key = name
    · subst hkey
      cases ho : Entries.get? others key <;> simp [andFields, Entries.get?, ho, Field.and]
    · simp [andFields, Entries.get?, hkey, ih]

/-- A field of two combined record shapes is the field of the one that has it, or both in one. -/
theorem get?_andRecords (r s : RecordShape Shape) (name : String) :
    Entries.get? (andRecords r s).fields name
      = Option.merge Field.and (Entries.get? r.fields name) (Entries.get? s.fields name) := by
  obtain ⟨fields, exact⟩ := r
  rw [andRecords, Entries.get?_append, get?_andFields,
    Entries.get?_filter (fun key => (Entries.get? fields key).isNone)]
  cases Entries.get? fields name <;> cases Entries.get? s.fields name <;> simp

/-- The names of the left side come first, then the new ones of the right side. -/
theorem keys_andRecords (r s : RecordShape Shape) :
    Entries.keys (andRecords r s).fields
      = Entries.keys r.fields ++ (Entries.keys s.fields).removeAll (Entries.keys r.fields) := by
  obtain ⟨fields, exact⟩ := r
  have hmiss (name : String) :
      (Entries.get? fields name).isNone = !(Entries.keys fields).elem name := by
    rw [Bool.eq_iff_iff, Option.isNone_iff_eq_none, Entries.get?_eq_none_iff]
    simp
  rw [andRecords, Entries.keys_append, keys_andFields,
    Entries.keys_filter fun key => (Entries.get? fields key).isNone]
  simp only [hmiss, List.removeAll]

@[simp] theorem exact_andRecords (r s : RecordShape Shape) :
    (andRecords r s).exact = (r.exact && s.exact) := by
  obtain ⟨fields, exact⟩ := r
  rfl

theorem nodup_keys_andRecords {r s : RecordShape Shape} (hr : (Entries.keys r.fields).Nodup)
    (hs : (Entries.keys s.fields).Nodup) : (Entries.keys (andRecords r s).fields).Nodup := by
  rw [keys_andRecords, List.nodup_append]
  refine ⟨hr, hs.filter _, ?_⟩
  rintro name hname other hother rfl
  simp [List.removeAll, hname] at hother

@[simp] theorem value_andDicts (d e : DictShape Shape) :
    (andDicts d e).value = d.value.and e.value := by
  obtain ⟨keyName, value⟩ := d
  rfl

@[simp] theorem record?_andConstraints (a b : Constraint Shape) :
    (andConstraints a b).record? = Option.merge andRecords a.record? b.record? := by
  cases a <;> cases b <;> rfl

@[simp] theorem dict?_andConstraints (a b : Constraint Shape) :
    (andConstraints a b).dict? = Option.merge andDicts a.dict? b.dict? := by
  cases a <;> cases b <;> rfl

theorem get?_fields_andConstraints (a b : Constraint Shape) (name : String) :
    Entries.get? (andConstraints a b).fields name
      = Option.merge Field.and (Entries.get? a.fields name) (Entries.get? b.fields name) := by
  simp only [Constraint.fields, record?_andConstraints]
  cases a.record? <;> cases b.record? <;> simp [get?_andRecords]

theorem keys_fields_andConstraints (a b : Constraint Shape) :
    Entries.keys (andConstraints a b).fields
      = Entries.keys a.fields ++ (Entries.keys b.fields).removeAll (Entries.keys a.fields) := by
  simp only [Constraint.fields, record?_andConstraints]
  cases a.record? <;> cases b.record? <;> simp [keys_andRecords]

theorem nodup_keys_andConstraints {a b : Constraint Shape} (ha : (Entries.keys a.fields).Nodup)
    (hb : (Entries.keys b.fields).Nodup) :
    (Entries.keys (andConstraints a b).fields).Nodup := by
  simp only [Constraint.fields, record?_andConstraints] at *
  cases hra : a.record? <;> cases hrb : b.record? <;>
    simp_all [nodup_keys_andRecords]

theorem mem_andFields {fields others : List (String × Field Shape)} {name : String}
    {h : Field Shape} (hh : (name, h) ∈ andFields fields others) :
    (name, h) ∈ fields ∨ ∃ f g, (name, f) ∈ fields ∧ (name, g) ∈ others ∧ h = f.and g := by
  induction fields with
  | nil => cases hh
  | cons field rest ih =>
    obtain ⟨key, f⟩ := field
    rw [andFields] at hh
    obtain heq | hrest := List.mem_cons.1 hh
    · cases hg : Entries.get? others key with
      | none =>
        rw [hg] at heq
        cases heq
        exact .inl List.mem_cons_self
      | some g =>
        rw [hg] at heq
        cases heq
        exact .inr ⟨f, g, List.mem_cons_self, Entries.mem_of_get? hg, rfl⟩
    · obtain hf | ⟨f, g, hf, hg, rfl⟩ := ih hrest
      · exact .inl (List.mem_cons_of_mem _ hf)
      · exact .inr ⟨f, g, List.mem_cons_of_mem _ hf, hg, rfl⟩

theorem mem_fields_andConstraints {a b : Constraint Shape} {name : String} {h : Field Shape}
    (hh : (name, h) ∈ (andConstraints a b).fields) :
    (name, h) ∈ a.fields ∨ (name, h) ∈ b.fields
      ∨ ∃ f g, (name, f) ∈ a.fields ∧ (name, g) ∈ b.fields ∧ h = f.and g := by
  rw [Constraint.fields, record?_andConstraints] at hh
  cases hra : a.record? with
  | none =>
    rw [hra, Option.merge_none_left] at hh
    exact .inr (.inl hh)
  | some r =>
    rw [Constraint.fields_eq hra]
    cases hrb : b.record? with
    | none =>
      rw [hra, hrb, Option.merge_none_right] at hh
      exact .inl hh
    | some s =>
      rw [Constraint.fields_eq hrb]
      rw [hra, hrb, Option.merge_some_some, Option.elim_some] at hh
      obtain ⟨fields, exact⟩ := r
      obtain hleft | hright := List.mem_append.1 hh
      · obtain hf | hboth := mem_andFields hleft
        · exact .inl hf
        · exact .inr (.inr hboth)
      · exact .inr (.inl (List.mem_filter.1 hright).1)

/-- Everything inside two combined constraints comes from one of them or is the intersection of a
part of each. -/
theorem mem_parts_andConstraints {a b : Constraint Shape} {t : Shape}
    (ht : t ∈ (andConstraints a b).parts) :
    t ∈ a.parts ∨ t ∈ b.parts ∨ ∃ u ∈ a.parts, ∃ w ∈ b.parts, t = u.and w := by
  obtain ⟨⟨name, h⟩, hh, rfl⟩ | ⟨d, hd, rfl⟩ := Constraint.mem_parts_iff.1 ht
  · obtain hf | hg | ⟨f, g, hf, hg, rfl⟩ := mem_fields_andConstraints hh
    · exact .inl (Constraint.mem_parts_of_field hf)
    · exact .inr (.inl (Constraint.mem_parts_of_field hg))
    · exact .inr (.inr ⟨_, Constraint.mem_parts_of_field hf, _, Constraint.mem_parts_of_field hg,
        rfl⟩)
  · rw [dict?_andConstraints, Option.merge_eq_some_iff] at hd
    obtain ⟨hd, -⟩ | ⟨-, he⟩ | ⟨d, e, hd, he, rfl⟩ := hd
    · exact .inl (Constraint.mem_parts_of_dict? hd)
    · exact .inr (.inl (Constraint.mem_parts_of_dict? he))
    · exact .inr (.inr ⟨_, Constraint.mem_parts_of_dict? hd, _, Constraint.mem_parts_of_dict? he,
        value_andDicts d e⟩)

theorem mem_parts_of_constraint? {s : Shape} {c : Constraint Shape} (h : s.constraint? = some c)
    {t : Shape} (ht : t ∈ c.parts) : t ∈ s.parts := by
  cases s with
  | record r | dict d =>
    cases h
    exact ht
  | merged left right c =>
    cases h
    exact List.mem_cons_of_mem _ (List.mem_cons_of_mem _ ht)
  | _ => cases h

theorem reachesConstraint_of_constraint? {s : Shape} {c : Constraint Shape}
    (h : s.constraint? = some c) : s.reachesConstraint = true := by
  cases s with
  | record | dict | merged => rfl
  | _ => cases h

/-- The intersection with a constraint, whichever kind of constraint it is. -/
theorem and_of_constraint? {a : Shape} {c : Constraint Shape} (h : a.constraint? = some c)
    (b : Shape) : a.and b = absorb a (andConstraints c) b := by
  cases a with
  | record r | dict d | merged left right c =>
    cases h
    rfl
  | _ => cases h

/-- Two constraints meet in one merged shape. -/
theorem absorb_of_constraint? {b : Shape} {c : Constraint Shape} (h : b.constraint? = some c)
    (whole : Shape) (f : Constraint Shape → Constraint Shape) :
    absorb whole f b = merged whole b (f c) := by
  cases b with
  | record r | dict d | merged left right c =>
    cases h
    rfl
  | _ => cases h

/-- Everything that happens to the left side of an intersection: it is under a comment, it is a
constraint, or both sides are checked side by side. -/
theorem and_cases (a : Shape) :
    (∃ text inner, a = commented text inner) ∨ (∃ c, a.constraint? = some c)
      ∨ a.constraint? = none ∧ ∀ b, a.and b = inter a b := by
  cases a with
  | commented text inner => exact .inl ⟨text, inner, rfl⟩
  | record r => exact .inr (.inl ⟨.record r, rfl⟩)
  | dict d => exact .inr (.inl ⟨.dict d, rfl⟩)
  | merged left right c => exact .inr (.inl ⟨c, rfl⟩)
  | _ => exact .inr (.inr ⟨rfl, fun b => rfl⟩)

/-- A constraint is carried into a shape on one of seven routes. A relation between a shape and what
a constraint is carried into that every route respects holds of all shapes. -/
theorem absorb_induction {whole : Shape} {f : Constraint Shape → Constraint Shape}
    {R : Shape → Shape → Prop}
    (constraint : ∀ b c, b.constraint? = some c → R b (merged whole b (f c)))
    (underComment : ∀ text b s, R b s → R (commented text b) (commented text s))
    (branches : ∀ b₁ b₂ s₁ s₂, R b₁ s₁ → R b₂ s₂ → R (union b₁ b₂) (union s₁ s₂))
    (bothSides : ∀ b₁ b₂ s₁ s₂, b₁.reachesConstraint = true → b₂.reachesConstraint = true →
      R b₁ s₁ → R b₂ s₂ → R (inter b₁ b₂) (inter s₁ s₂))
    (leftSide : ∀ b₁ b₂ s₁, b₁.reachesConstraint = true → b₂.reachesConstraint = false →
      R b₁ s₁ → R (inter b₁ b₂) (inter s₁ b₂))
    (rightSide : ∀ b₁ b₂ s₂, b₁.reachesConstraint = false → b₂.reachesConstraint = true →
      R b₂ s₂ → R (inter b₁ b₂) (inter b₁ s₂))
    (beside : ∀ b, b.reachesConstraint = false → R b (inter whole b))
    (b : Shape) : R b (absorb whole f b) := by
  induction b using induction_on_parts with
  | step b ih =>
    cases b with
    | record r => exact constraint _ _ rfl
    | dict d => exact constraint _ _ rfl
    | merged left right c => exact constraint _ _ rfl
    | commented text b => exact underComment text b _ (ih b (by simp [parts]))
    | union b₁ b₂ => exact branches b₁ b₂ _ _ (ih b₁ (by simp [parts])) (ih b₂ (by simp [parts]))
    | inter b₁ b₂ =>
      have left := ih b₁ (by simp [parts])
      have right := ih b₂ (by simp [parts])
      rw [absorb]
      cases h₁ : b₁.reachesConstraint <;> cases h₂ : b₂.reachesConstraint
      · exact beside _ (by simp [reachesConstraint, h₁, h₂])
      · exact rightSide b₁ b₂ _ h₁ h₂ right
      · exact leftSide b₁ b₂ _ h₁ h₂ left
      · exact bothSides b₁ b₂ _ _ h₁ h₂ left right
    | _ => exact beside _ rfl

/-- An intersection is reached on one of eight routes. A relation between two shapes and their
intersection that every route respects holds of all shapes. Where two constraints meet, it may be
used on whatever is inside the left one. -/
theorem and_induction {R : Shape → Shape → Shape → Prop}
    (underLeft : ∀ text a b s, R a b s → R (commented text a) b (commented text s))
    (underRight : ∀ text a b s, R a b s → R a (commented text b) (commented text s))
    (branches : ∀ a b₁ b₂ s₁ s₂, R a b₁ s₁ → R a b₂ s₂ → R a (union b₁ b₂) (union s₁ s₂))
    (bothSides : ∀ a b₁ b₂ s₁ s₂, R a b₁ s₁ → R a b₂ s₂ → R a (inter b₁ b₂) (inter s₁ s₂))
    (leftSide : ∀ a b₁ b₂ s₁, R a b₁ s₁ → R a (inter b₁ b₂) (inter s₁ b₂))
    (rightSide : ∀ a b₁ b₂ s₂, R a b₂ s₂ → R a (inter b₁ b₂) (inter b₁ s₂))
    (sideBySide : ∀ a b, a.constraint? = none ∨ b.reachesConstraint = false → R a b (inter a b))
    (constraints : ∀ a b ca cb, a.constraint? = some ca → b.constraint? = some cb →
      (∀ t ∈ ca.parts, ∀ u, R t u (t.and u)) → R a b (merged a b (andConstraints ca cb)))
    (a b : Shape) : R a b (a.and b) := by
  induction a using induction_on_parts generalizing b with
  | step a ih =>
    obtain ⟨text, inner, rfl⟩ | ⟨c, hc⟩ | ⟨hc, hand⟩ := and_cases a
    · exact underLeft text inner b _ (ih inner List.mem_cons_self b)
    · have inside : ∀ t ∈ c.parts, ∀ u, R t u (t.and u) :=
        fun t ht u => ih t (mem_parts_of_constraint? hc ht) u
      rw [and_of_constraint? hc]
      -- The left side stays the same from here on, and the right side is taken apart.
      apply absorb_induction (R := R a)
      case constraint => exact fun b d hd => constraints a b c d hc hd inside
      case underComment => exact fun text b s => underRight text a b s
      case branches => exact fun b₁ b₂ s₁ s₂ => branches a b₁ b₂ s₁ s₂
      case bothSides => exact fun b₁ b₂ s₁ s₂ _ _ => bothSides a b₁ b₂ s₁ s₂
      case leftSide => exact fun b₁ b₂ s₁ _ _ => leftSide a b₁ b₂ s₁
      case rightSide => exact fun b₁ b₂ s₂ _ _ => rightSide a b₁ b₂ s₂
      case beside => exact fun b hb => sideBySide a b (.inr hb)
    · rw [hand]
      exact sideBySide a b (.inl hc)

/-- An intersection leads to a constraint if one of its shapes does. -/
theorem reachesConstraint_and (a b : Shape) :
    (a.and b).reachesConstraint = (a.reachesConstraint || b.reachesConstraint) := by
  apply and_induction (R := fun a b s =>
    s.reachesConstraint = (a.reachesConstraint || b.reachesConstraint))
  case underLeft | underRight => exact fun _ _ _ _ h => h
  case branches | bothSides =>
    intro a b₁ b₂ s₁ s₂ h₁ h₂
    simp only [reachesConstraint, h₁, h₂]
    grind
  case leftSide =>
    intro a b₁ b₂ s₁ h₁
    simp only [reachesConstraint, h₁, Bool.or_assoc]
  case rightSide =>
    intro a b₁ b₂ s₂ h₂
    simp only [reachesConstraint, h₂]
    grind
  case sideBySide => exact fun _ _ _ => rfl
  case constraints =>
    intro a b ca cb hca _ _
    rw [reachesConstraint_of_constraint? hca]
    rfl

end Shape

end ShapeCheck
