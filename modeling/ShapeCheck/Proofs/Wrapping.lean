import ShapeCheck.Proofs.Rearrangement
import ShapeCheck.Proofs.Unions
import ShapeCheck.Proofs.Validations

/-!
# Slices by a shape with something around it

A comment, a validation that holds and an alternative behind a shape do not change what it reports
of a value, and the slice is what the report keeps. A merged shape with fields and a dictionary has
a slice of its own, a plain object with all entries, those of the fields first. With a validation or
an alternative around it the value itself is kept: the same entries in their own order, and the same
class if the value is an instance.
-/

namespace ShapeCheck.Shape

variable {s t : Shape} {v w : Value}

/-- A merged shape with fields and a dictionary reports that every key is allowed. -/
theorem report?_of_isHybrid (hs : s.IsHybrid) {report : KeyReport}
    (h : s.report? v = some report) : report = .untracked := by
  obtain ⟨r, d, hc⟩ := hs
  rw [← report?_bare] at h
  obtain ⟨-, -, -, rfl⟩ := (report?_of_constraint? hc).1 h
  rfl

/-- Shapes with one report keep the same of a value, but for a merged shape with fields and a
dictionary, which makes a plain object. -/
theorem slice_of_report?_eq (ht : ¬t.IsHybrid) (hreport : t.report? v = s.report? v)
    (hv : ∀ entries, v.record? = some entries → (Entries.keys entries).Nodup)
    (hw : s.slice v = .ok w) :
    ∃ kept, t.slice v = .ok kept ∧ (¬s.IsHybrid → kept = w)
      ∧ (s.IsHybrid → kept = v ∧ ∃ entries more, v.record? = some entries ∧ w = .object more
        ∧ more.Perm entries) := by
  obtain ⟨report, hs, hkeys⟩ := accepts_iff_report?.1 (accepts_of_slice hw)
  refine ⟨report.project v, ?_, ?_, ?_⟩
  · exact (slice_eq_ok_iff ht).2 ⟨report, hreport.trans hs, hkeys, rfl⟩
  · intro hplain
    cases (slice_of_accepts hplain (accepts_of_slice hw) hs).symm.trans hw
    rfl
  · intro hhybrid
    rw [report?_of_isHybrid hhybrid hs]
    obtain ⟨r, d, hc⟩ := hhybrid
    obtain ⟨entries, hrecord, -, rfl⟩ := (slice_of_isHybrid hc).1 hw
    exact ⟨rfl, entries, _, hrecord, rfl, arrange_perm (hv entries hrecord) _⟩

/-- What is put around a shape without a further question to a value: a validation that holds of the
value, or an alternative behind the shape. -/
inductive Around (v : Value) (s : Shape) : Shape → Prop where
  | validate (description : String) {test : Value → Verdict} (h : test v = .holds) :
    Around v s (s.validate description test)
  | or (other : Shape) : Around v s (s.or other)

namespace Around

theorem report?_eq (h : Around v s t) {report : KeyReport} (hs : s.report? v = some report) :
    t.report? v = some report := by
  cases h with
  | @validate description test h =>
    have hone : (validation description test).isValidation = true := rfl
    have hbeside := report?_and_validations (.validation description h) hs
    rwa [if_pos hone] at hbeside
  | or other =>
    rw [Shape.or, report?_union, hs]
    rfl

theorem not_isHybrid (h : Around v s t) : ¬t.IsHybrid := by
  cases h with
  | validate description h =>
    exact not_isHybrid_of_constraint?_bare (constraint?_bare_and_of_right s rfl)
  | or other => exact not_isHybrid_of_constraint?_bare rfl

end Around

/-- A shape with a comment makes the slice that it makes alone. With a validation that holds or with
an alternative behind it, a shape keeps the same entries, and what it keeps is the same value unless
the shape is a merged one with fields and a dictionary, which puts the entries of a record in an
order of its own and takes an instance out of its class. -/
theorem slice_of_around (hv : ∀ entries, v.record? = some entries → (Entries.keys entries).Nodup)
    (hw : s.slice v = .ok w) :
    (∀ text, (s.comment text).slice v = .ok w)
      ∧ ∀ t, Around v s t → ∃ kept, t.slice v = .ok kept
        ∧ (¬s.IsHybrid → kept = w)
        ∧ (s.IsHybrid → kept = v ∧ ∃ entries more, v.record? = some entries ∧ w = .object more
          ∧ more.Perm entries)
        ∧ ((s.IsHybrid → ∃ entries, v = .object entries) →
          kept.Rearranged w ∧ ∀ x, kept.equals x = w.equals x) := by
  refine ⟨fun text => hw, fun t ht => ?_⟩
  obtain ⟨report, hs, -⟩ := accepts_iff_report?.1 (accepts_of_slice hw)
  obtain ⟨kept, hkept, hplain, hhybrid⟩ :=
    slice_of_report?_eq ht.not_isHybrid ((ht.report?_eq hs).trans hs.symm) hv hw
  have hrearranged (hobject : s.IsHybrid → ∃ entries, v = .object entries) :
      kept.Rearranged w := by
    by_cases h : s.IsHybrid
    · -- The merged shape arranges what the shape around it leaves as it stands.
      obtain ⟨rfl, entries, more, hrecord, rfl, hperm⟩ := hhybrid h
      obtain ⟨_, rfl⟩ := hobject h
      cases hrecord
      exact .entries hperm.symm
    · rw [hplain h]
      exact .refl w
  exact ⟨kept, hkept, hplain, hhybrid, fun hobject =>
    ⟨hrearranged hobject, (hrearranged hobject).equals_eq⟩⟩

theorem slice_of_around_validated :
    ∃ kept,
      (((openRecord [("b", ⟨any, .required⟩)]).and (dictOf any)).validate "test"
          fun _ => .holds).slice (.object [("a", .null), ("b", .null)]) = .ok kept
        ∧ kept.Rearranged (.object [("b", .null), ("a", .null)]) := by
  have hsliced : ((openRecord [("b", ⟨any, .required⟩)]).and (dictOf any)).slice
      (.object [("a", .null), ("b", .null)]) = .ok (.object [("b", .null), ("a", .null)]) := rfl
  obtain ⟨-, haround⟩ := slice_of_around (by rintro _ ⟨⟩; decide) hsliced
  obtain ⟨kept, hkept, -, -, hobject⟩ :=
    haround _ (@Around.validate _ _ "test" (fun _ => .holds) rfl)
  exact ⟨kept, hkept, (hobject fun _ => ⟨_, rfl⟩).1⟩

/-- An instance stays one beside a validation and in front of an alternative, and becomes a plain
object by the merged shape alone. What is no number is not equal to itself anyway. -/
theorem not_slice_of_around :
    (∃ w, ((openRecord [("a", ⟨any, .required⟩)]).and (dictOf any)).slice
          (.instance (.declared 0 "C" .object) [("a", .null)]) = .ok w
        ∧ ∀ t, (t = ((openRecord [("a", ⟨any, .required⟩)]).and (dictOf any)).validate "test"
              (fun _ => .holds)
            ∨ t = ((openRecord [("a", ⟨any, .required⟩)]).and (dictOf any)).or any) →
          ∃ kept, t.slice (.instance (.declared 0 "C" .object) [("a", .null)]) = .ok kept
            ∧ kept.equals w = false)
      ∧ ∃ w, any.slice (.number .nan) = .ok w ∧ (any.comment "text").slice (.number .nan) = .ok w
        ∧ w.equals w = false := by
  refine ⟨⟨_, rfl, ?_⟩, _, rfl, rfl, by decide⟩
  rintro t (rfl | rfl)
  · exact ⟨_, rfl, rfl⟩
  · exact ⟨_, rfl, rfl⟩

end ShapeCheck.Shape
