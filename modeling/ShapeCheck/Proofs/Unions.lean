import ShapeCheck.Proofs.Built
import ShapeCheck.Proofs.EntryPoints

/-!
# What a union widens

A union takes the report of its first branch that gives one, and only then are the keys settled. A
branch in front can therefore only take a value away by reporting of it: where it refuses the value,
or reports and permits all of its keys, the union accepts what the other branch accepts.
-/

namespace ShapeCheck.Shape

variable {a b : Shape} {v : Value}

/-- The union of two shapes follows the first one wherever it gives a report. -/
theorem accepts_or_of_track {report : KeyReport} (h : a.track v = .ok report) :
    (a.or b).accepts v = true ↔ report.Permits v := by
  have hreport : (a.or b).report? v = some report := by
    show (union a b).report? v = _
    rw [report?_union, track_eq_ok_iff.1 h, Option.some_or]
  rw [accepts_iff_report?, KeyReport.permits_iff, hreport]
  constructor
  · rintro ⟨_, ⟨⟩, hkeys⟩
    exact hkeys
  · intro hkeys
    exact ⟨report, rfl, hkeys⟩

/-- The union of two shapes is the second one wherever the first refuses to report. -/
theorem accepts_or_of_track_error {failure : Failure} (h : a.track v = .error failure) :
    (a.or b).accepts v = b.accepts v := by
  have hnone : a.report? v = none := by
    rw [Option.eq_none_iff_forall_ne_some]
    intro report hreport
    rw [track_eq_ok_iff.2 hreport] at h
    cases h
  have hreport : (a.or b).report? v = b.report? v := by
    show (union a b).report? v = _
    rw [report?_union, hnone, Option.none_or]
  rw [Bool.eq_iff_iff, accepts_iff_report?, accepts_iff_report?, hreport]

/-- A union accepts what its first branch accepts. What its second branch accepts it accepts as well
unless the first one reports of the value and forbids one of its keys. -/
theorem or_widens (h : a.accepts v = true) :
    (a.or b).accepts v = true
      ∧ ((b.or a).accepts v = true ↔ ∀ report, b.track v = .ok report → report.Permits v) := by
  constructor
  · obtain ⟨report, htrack, hpermits⟩ := accepts_iff_permits.1 h
    exact (accepts_or_of_track htrack).2 hpermits
  · cases htrack : b.track v with
    | error failure =>
      rw [accepts_or_of_track_error htrack]
      exact iff_of_true h fun _ hreport => nomatch hreport
    | ok report =>
      rw [accepts_or_of_track htrack]
      constructor
      · rintro hpermits _ ⟨⟩
        exact hpermits
      · intro hall
        exact hall report rfl

theorem or_widens_past_open_record :
    (openRecord []).accepts (.object [("x", .null)]) = true
      ∧ ((openRecord []).or (exactRecord [("k", ⟨any, .optional⟩)])).accepts
        (.object [("x", .null)]) = true
      ∧ (((exactRecord [("k", ⟨any, .optional⟩)]).or (openRecord [])).accepts
          (.object [("x", .null)]) = true
        ↔ ∀ report, (exactRecord [("k", ⟨any, .optional⟩)]).track (.object [("x", .null)])
          = .ok report → report.Permits (.object [("x", .null)])) :=
  ⟨rfl, or_widens rfl⟩

/-- A record shape in front that forbids unknown keys commits the union to its keys, so that a value
with another key is lost to the branch behind it. -/
theorem not_or_widens :
    ¬ ∀ a b : Shape, a.Built → b.Built → ∀ v, a.accepts v = true →
      (a.or b).accepts v = true ∧ (b.or a).accepts v = true := by
  intro h
  have hwidened := h any (exactRecord [("k", ⟨any, .required⟩)]) .any
    (.fields true (by simpa using .any)) (.object [("k", .null), ("x", .null)]) rfl
  have hfalse := hwidened.2
  contradiction

end ShapeCheck.Shape
