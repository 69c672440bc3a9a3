import Mathlib.Data.Finset.Lattice.Lemmas
import Mathlib.Data.Option.NAry
import ShapeCheck.Proofs.Alike
import ShapeCheck.Proofs.EntryPoints
import ShapeCheck.Proofs.Matching

/-!
# Reports whatever the order of their keys

The sides of an intersection report the same keys in either order, and a constraint that is carried
into several branches or sides reports its keys several times. Neither can be seen in what is
accepted: that depends on the scope of a report only, the set of keys that are known and whether
others are forbidden. Scopes meet like sets, in any order and any number of times.
-/

namespace ShapeCheck

/-- What a report says of keys: those that are known, and whether others are forbidden. -/
@[ext]
structure KeyScope where
  known : Option (Finset String)
  exact : Bool

namespace KeyScope

/-- The scope of both sides of an intersection. -/
def meet (a b : KeyScope) : KeyScope := ⟨Option.map₂ (· ∪ ·) a.known b.known, a.exact && b.exact⟩

theorem meet_comm (a b : KeyScope) : a.meet b = b.meet a := by
  refine KeyScope.ext ?_ (Bool.and_comm _ _)
  exact Option.map₂_comm Finset.union_comm

theorem meet_assoc (a b c : KeyScope) : (a.meet b).meet c = a.meet (b.meet c) := by
  refine KeyScope.ext ?_ (Bool.and_assoc _ _ _)
  exact Option.map₂_assoc Finset.union_assoc

theorem meet_self (a : KeyScope) : a.meet a = a := by
  refine KeyScope.ext ?_ (Bool.and_self _)
  cases h : a.known <;> simp [meet, h]

theorem meet_left_comm (a b c : KeyScope) : a.meet (b.meet c) = b.meet (a.meet c) := by
  rw [← meet_assoc, meet_comm a b, meet_assoc]

/-- What meets both sides meets them once. -/
theorem meet_meet_meet (a b c : KeyScope) : (a.meet b).meet (a.meet c) = a.meet (b.meet c) := by
  rw [meet_assoc, meet_left_comm b a c, ← meet_assoc, meet_self]

end KeyScope

namespace KeyReport

/-- The scope of a report. -/
def scope (report : KeyReport) : KeyScope := ⟨report.known.map List.toFinset, report.exact⟩

theorem scope_both (a b : KeyReport) : (a.both b).scope = a.scope.meet b.scope := by
  obtain ⟨ka, ea⟩ := a
  obtain ⟨kb, eb⟩ := b
  cases ka <;> cases kb <;> simp [both, scope, KeyScope.meet]

variable {a b : KeyReport} {v : Value}

/-- Reports of one scope permit the same values. -/
theorem permits_iff_of_scope_eq (h : a.scope = b.scope) : a.Permits v ↔ b.Permits v := by
  obtain ⟨ka, ea⟩ := a
  obtain ⟨kb, eb⟩ := b
  obtain ⟨hknown, rfl⟩ : ka.map List.toFinset = kb.map List.toFinset ∧ ea = eb := by
    simpa [scope] using h
  cases ka with
  | none =>
    cases kb with
    | none => rfl
    | some kb => cases hknown
  | some ka =>
    cases kb with
    | none => cases hknown
    | some kb =>
      have hmem (key : String) : key ∈ ka ↔ key ∈ kb := by
        rw [← List.mem_toFinset, ← List.mem_toFinset, Option.some.inj hknown]
      simp [Permits, hmem]

/-- An intersection permits what one of its sides permits. -/
theorem Permits.both_left (h : a.Permits v) (b : KeyReport) : (a.both b).Permits v := by
  obtain hopen | hnone | hv | ⟨known, entries, hknown, hv, hkeys⟩ := h
  · exact .inl (by rw [both, hopen, Bool.false_and])
  · exact .inr (.inl (by rw [both, hnone]))
  · exact .inr (.inr (.inl hv))
  · cases hb : b.known with
    | none => exact .inr (.inl (by rw [both, hknown, hb]))
    | some more =>
      refine .inr (.inr (.inr ⟨known ++ more, entries, by rw [both, hknown, hb], hv, ?_⟩))
      exact fun entry hentry => List.mem_append_left _ (hkeys entry hentry)

theorem Permits.both_right (h : b.Permits v) (a : KeyReport) : (a.both b).Permits v := by
  have hscope : (b.both a).scope = (a.both b).scope := by
    rw [scope_both, scope_both, KeyScope.meet_comm]
  exact (permits_iff_of_scope_eq hscope).1 (h.both_left a)

end KeyReport

theorem Shape.toFinset_keys_andRecords (r s : RecordShape Shape) :
    (Entries.keys (andRecords r s).fields).toFinset
      = (Entries.keys r.fields).toFinset ∪ (Entries.keys s.fields).toFinset := by
  ext name
  rw [keys_andRecords]
  simp only [List.removeAll, List.elem_eq_mem, List.toFinset_append, Finset.mem_union,
    List.mem_toFinset, List.mem_filter, Bool.not_eq_eq_eq_not, Bool.not_true,
    decide_eq_false_iff_not]
  tauto

/-- Two constraints report as one what they report side by side. -/
theorem Constraint.scope_report_andConstraints (c d : Constraint Shape) :
    (Shape.andConstraints c d).report.scope = c.report.scope.meet d.report.scope := by
  cases c <;> cases d <;>
    simp [report, KeyReport.scope, KeyReport.untracked, KeyScope.meet,
      Shape.toFinset_keys_andRecords]

namespace Shape

/-- The scope of what a shape reports of a value. -/
def scope? (s : Shape) (v : Value) : Option KeyScope := (s.report? v).map KeyReport.scope

variable {s t left right : Shape} {v : Value}

theorem scope?_of_report? {report : KeyReport} (h : s.report? v = some report) :
    s.scope? v = some report.scope := by
  rw [scope?, h, Option.map_some]

theorem scope?_eq_none_iff : s.scope? v = none ↔ ¬s.Matches v := by
  rw [scope?, Option.map_eq_none_iff, Option.eq_none_iff_forall_ne_some, Matches, not_exists]

/-- Acceptance depends on scopes only. -/
theorem accepts_eq_of_scope? (h : s.scope? v = t.scope? v) : s.accepts v = t.accepts v := by
  have narrow {s t : Shape} (h : s.scope? v = t.scope? v) (hs : s.accepts v = true) :
      t.accepts v = true := by
    obtain ⟨report, hreport, hkeys⟩ := accepts_iff_report?.1 hs
    rw [scope?_of_report? hreport] at h
    obtain ⟨other, hother, hscope⟩ := Option.map_eq_some_iff.1 h.symm
    refine accepts_iff_report?.2 ⟨other, hother, ?_⟩
    rw [← KeyReport.permits_iff] at hkeys ⊢
    exact (KeyReport.permits_iff_of_scope_eq hscope).2 hkeys
  exact Bool.eq_iff_iff.2 ⟨narrow h, narrow h.symm⟩

theorem Alike.scope?_eq (h : Alike v s t) : s.scope? v = t.scope? v := by
  rw [scope?, scope?, h.report]

theorem scope?_union (left right : Shape) (v : Value) :
    (union left right).scope? v = (left.scope? v).or (right.scope? v) := by
  simp only [scope?, report?_union, Option.map_or]

theorem scope_reportOfSides (left right : Shape) (a b : KeyReport) :
    (reportOfSides left right a b).scope
      = if left.isValidation then b.scope else if right.isValidation then a.scope
        else a.scope.meet b.scope := by
  unfold reportOfSides
  split
  · rfl
  · split
    · rfl
    · exact KeyReport.scope_both a b

theorem scope?_inter (left right : Shape) (v : Value) :
    (inter left right).scope? v
      = (left.scope? v).bind fun a => (right.scope? v).map fun b =>
        if left.isValidation then b else if right.isValidation then a else a.meet b := by
  simp only [scope?, report?_inter]
  cases left.report? v <;> cases right.report? v <;> simp [scope_reportOfSides]

theorem scope?_inter_of_not_isValidation (hl : left.isValidation = false)
    (hr : right.isValidation = false) :
    (inter left right).scope? v = Option.map₂ KeyScope.meet (left.scope? v) (right.scope? v) := by
  rw [scope?_inter, hl, hr]
  rfl

/-- A constraint that matches reports its own scope. -/
theorem scope?_of_constraint? {c : Constraint Shape} (h : s.constraint? = some c)
    (hmatch : s.Matches v) : s.scope? v = some c.report.scope := by
  obtain ⟨report, hreport⟩ := hmatch
  obtain ⟨-, -, -, rfl⟩ := (report?_of_constraint? h).1 hreport
  exact scope?_of_report? hreport

/-- The sides of an intersection can be exchanged. -/
theorem scope?_inter_comm (left right : Shape) (v : Value) :
    (inter left right).scope? v = (inter right left).scope? v := by
  have untracked {s : Shape} (hs : s.isValidation = true) {a : KeyScope}
      (ha : s.scope? v = some a) : a = KeyReport.untracked.scope := by
    obtain ⟨report, hreport, rfl⟩ := Option.map_eq_some_iff.1 ha
    rw [report?_of_isValidation hs hreport]
  rw [scope?_inter, scope?_inter]
  cases ha : left.scope? v with
  | none => cases right.scope? v <;> rfl
  | some a =>
    cases hb : right.scope? v with
    | none => rfl
    | some b =>
      simp only [Option.bind_some, Option.map_some, Option.some.injEq]
      cases hl : left.isValidation <;> cases hr : right.isValidation
      · simp [KeyScope.meet_comm a b]
      · simp
      · simp
      · rw [untracked hl ha, untracked hr hb]

end Shape

end ShapeCheck
