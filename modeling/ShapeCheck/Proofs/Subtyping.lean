import ShapeCheck.Proofs.EntryPoints

/-!
# Record shapes below record shapes

A record shape lies below another one if it asks at least as much of every field of the other: it
may have fields of its own, demand the common ones more strictly, and narrow their shapes. The order
of strictness in which merging compares demands is the order of what they admit, so that a stricter
demand for a narrower shape admits less, whether the entry is missing, undefined or anything else.
Unknown keys matter only where the upper shape forbids them. The lower one then has to forbid them
too, and must not know more.
-/

namespace ShapeCheck

/-- Whether a field asks at least what another one asks. -/
structure Field.Narrows (f g : Field Shape) : Prop where
  presence : f.presence.stricter g.presence = f.presence
  shape : ∀ x, g.shape.accepts x = false → f.shape.accepts x = false

namespace Field.Narrows

variable {f g : Field Shape}

theorem accepts (h : f.Narrows g) {x : Value} (hx : f.shape.accepts x = true) :
    g.shape.accepts x = true := by
  by_contra hg
  have hf := h.shape x (Bool.eq_false_iff.2 hg)
  rw [hx] at hf
  cases hf

/-- A stricter demand for a narrower shape admits less. -/
theorem admits (h : f.Narrows g) {x? : Option Value} (hf : f.Admits x?) : g.Admits x? := by
  cases x? with
  | none =>
    intro hrequired
    have hstricter : f.presence.stricter g.presence = .required :=
      Presence.stricter_eq_required_iff.2 (.inr hrequired)
    exact hf (h.presence.symm.trans hstricter)
  | some x =>
    obtain ⟨hoptional, hundefined⟩ | hx := hf
    · have hstricter : f.presence.stricter g.presence = .optional := h.presence.trans hoptional
      exact .inl ⟨(Presence.stricter_eq_optional_iff.1 hstricter).2, hundefined⟩
    · exact .inr (h.accepts hx)

end Field.Narrows

/-- Whether a record shape lies below another one. -/
structure RecordShape.Narrows (r q : RecordShape Shape) : Prop where
  /-- Every field of the upper shape is a field of the lower one, which asks at least as much. -/
  fields : ∀ field ∈ q.fields, ∃ f, (field.1, f) ∈ r.fields ∧ f.Narrows field.2
  /-- The upper shape tolerates unknown keys, or both forbid them and the lower one knows no
  more. -/
  keys : q.exact = false ∨ r.exact = true ∧ q.exact = true
    ∧ ∀ name ∈ Entries.keys r.fields, name ∈ Entries.keys q.fields

namespace RecordShape.Narrows

variable {r q : RecordShape Shape}

theorem holdsOn (h : r.Narrows q) {entries : List (String × Value)}
    (hr : (Constraint.record r).HoldsOn entries) : (Constraint.record q).HoldsOn entries where
  fields field hfield := by
    obtain ⟨f, hf, hnarrows⟩ := h.fields field hfield
    exact hnarrows.admits (hr.fields (field.1, f) hf)
  values d hd := nomatch hd

/-- What the lower shape leaves alone of the keys of a record, the upper one does too. -/
theorem permits (h : r.Narrows q) {v : Value} (hr : (Constraint.record r).report.Permits v) :
    (Constraint.record q).report.Permits v := by
  obtain hopen | ⟨hexact, -, hknown⟩ := h.keys
  · exact .inl hopen
  · obtain hopen | hnone | hv | ⟨_, entries, ⟨⟩, hv, hkeys⟩ := hr
    · cases hexact.symm.trans hopen
    · cases hnone
    · exact .inr (.inr (.inl hv))
    · refine .inr (.inr (.inr ⟨_, entries, rfl, hv, ?_⟩))
      intro entry hentry
      exact hknown entry.1 (hkeys entry hentry)

end RecordShape.Narrows

namespace Shape

/-- What a record shape accepts, all record shapes above it accept. -/
theorem record_accepts_of_narrows {r q : RecordShape Shape} (h : r.Narrows q) {v : Value}
    (hv : (record r).accepts v = true) : (record q).accepts v = true := by
  obtain ⟨entries, hrecord, hholds, hkeys⟩ := (accepts_of_constraint? rfl).1 hv
  have hpermits := h.permits (KeyReport.permits_iff.2 hkeys)
  exact (accepts_of_constraint? rfl).2
    ⟨entries, hrecord, h.holdsOn hholds, KeyReport.permits_iff.1 hpermits⟩

theorem record_accepts_of_narrows_exact :
    RecordShape.Narrows ⟨[("a", ⟨tagged .number, .required⟩), ("b", ⟨never, .allowMissing⟩)], true⟩
        ⟨[("b", ⟨tagged .string, .optional⟩), ("a", ⟨any, .allowMissing⟩)], true⟩
      ∧ (record ⟨[("a", ⟨tagged .number, .required⟩), ("b", ⟨never, .allowMissing⟩)], true⟩).accepts
        (.object [("a", .ofInt 1)]) = true
      ∧ (record ⟨[("b", ⟨tagged .string, .optional⟩), ("a", ⟨any, .allowMissing⟩)], true⟩).accepts
        (.object [("a", .ofInt 1)]) = true := by
  have hnarrows : RecordShape.Narrows
      ⟨[("a", ⟨tagged .number, .required⟩), ("b", ⟨never, .allowMissing⟩)], true⟩
      ⟨[("b", ⟨tagged .string, .optional⟩), ("a", ⟨any, .allowMissing⟩)], true⟩ := by
    refine ⟨?_, .inr ⟨rfl, rfl, by decide⟩⟩
    intro field hfield
    simp only [List.mem_cons, List.not_mem_nil, or_false] at hfield
    obtain rfl | rfl := hfield
    · exact ⟨_, .tail _ (.head _), rfl, fun _ _ => rfl⟩
    · exact ⟨_, .head _, rfl, fun _ hany => nomatch hany⟩
  exact ⟨hnarrows, rfl, record_accepts_of_narrows hnarrows rfl⟩

end Shape

end ShapeCheck
