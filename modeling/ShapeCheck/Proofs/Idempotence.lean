import ShapeCheck.Proofs.Scopes
import ShapeCheck.Proofs.Regrouping

/-!
# A shape combined with itself

Nothing is asked twice of a value that is not asked once. As a union with itself a shape reports
what it reports alone. As an intersection with itself a constraint becomes a constraint with the
same names, presences and exactness, in which every shape inside is combined with itself, and any
other shape stands beside itself, so that its known keys come twice.
-/

namespace ShapeCheck

theorem removeAll_self (names : List String) : names.removeAll names = [] :=
  List.filter_eq_nil_iff.2 fun name hname => by simp [hname]

namespace KeyReport

/-- The report in which every known key stands where it first came and nowhere else. -/
def withoutRepeats (report : KeyReport) : KeyReport :=
  { report with known := report.known.map List.eraseDups }

theorem withoutRepeats_both_self (report : KeyReport) :
    (report.both report).withoutRepeats = report.withoutRepeats := by
  obtain ⟨known, exact⟩ := report
  cases known with
  | none => simp [both, withoutRepeats]
  | some names => simp [both, withoutRepeats, List.eraseDups_append, removeAll_self]

theorem scope_withoutRepeats (report : KeyReport) :
    report.withoutRepeats.scope = report.scope := by
  obtain ⟨known, exact⟩ := report
  cases known with
  | none => rfl
  | some names =>
    have hset : names.eraseDups.toFinset = names.toFinset := by
      ext name
      rw [List.mem_toFinset, List.mem_toFinset, List.mem_eraseDups]
    simp [withoutRepeats, scope, hset]

end KeyReport

/-- A field combined with itself asks for what it asks for, if its shape does. -/
theorem Field.admits_and_self {f : Field Shape}
    (hself : ∀ x, (f.shape.and f.shape).accepts x = f.shape.accepts x) (x? : Option Value) :
    (f.and f).Admits x? ↔ f.Admits x? := by
  have hpresence : (f.and f).presence = f.presence := Presence.stricter_self f.presence
  cases x? with
  | none => simp only [Field.Admits, hpresence]
  | some x =>
    have haccepts : (f.and f).shape.accepts x = f.shape.accepts x := hself x
    simp only [Field.Admits, hpresence, haccepts]

namespace Shape

variable {a b s t : Shape} {c : Constraint Shape} {v : Value}

theorem holdsOn_andConstraints_self (hc : (Entries.keys c.fields).Nodup)
    {entries : List (String × Value)}
    (hself : ∀ t ∈ c.parts, ∀ x, (t.and t).accepts x = t.accepts x) :
    (andConstraints c c).HoldsOn entries ↔ c.HoldsOn entries := by
  rw [Constraint.holdsOn_iff_get? (nodup_keys_andConstraints hc hc),
    Constraint.holdsOn_iff_get? hc]
  simp only [get?_fields_andConstraints, dict?_andConstraints]
  refine and_congr (forall_congr' fun name => ?_) ?_
  · cases hf : Entries.get? c.fields name with
    | none => simp
    | some f =>
      have hmem := Constraint.mem_parts_of_field (Entries.mem_of_get? hf)
      simp [Field.admits_and_self (hself f.shape hmem)]
  · cases hd : c.dict? with
    | none => simp
    | some d => simp [hself d.value (Constraint.mem_parts_of_dict? hd)]

/-- Names, exactness and whether there is a dictionary stay as they are. -/
theorem report_andConstraints_self (c : Constraint Shape) :
    (andConstraints c c).report = c.report := by
  cases c with
  | record r => simp [Constraint.report, keys_andRecords, removeAll_self]
  | dict | both => rfl

/-- Acceptance does not depend on repetitions of known keys. -/
theorem accepts_eq_of_withoutRepeats
    (h : (s.report? v).map KeyReport.withoutRepeats = (t.report? v).map KeyReport.withoutRepeats) :
    s.accepts v = t.accepts v := by
  have hscopes := congrArg (Option.map KeyReport.scope) h
  simp only [Option.map_map, Function.comp_def, KeyReport.scope_withoutRepeats] at hscopes
  exact accepts_eq_of_scope? hscopes

/-- What a shape reports beside itself. -/
theorem report?_inter_self (s : Shape) (v : Value) :
    (inter s s).report? v
      = (s.report? v).map fun report => if s.isValidation then report else report.both report := by
  rw [report?_inter]
  cases s.report? v with
  | none => rfl
  | some report => cases hs : s.isValidation <;> simp [reportOfSides, hs]

/-- In an intersection with itself a shape reports what it reports alone, known keys perhaps
repeated. -/
theorem Formed.report?_and_self (hs : s.Formed) (v : Value) :
    ((s.and s).report? v).map KeyReport.withoutRepeats
      = (s.report? v).map KeyReport.withoutRepeats := by
  induction s using induction_on_parts generalizing v with
  | step s ih =>
    obtain ⟨text, inner, rfl⟩ | ⟨c, hc⟩ | ⟨-, hand⟩ := and_cases s
    · have hinner := ih inner (by simp [parts]) (hs.part (by simp [parts])) v
      have houter : Alike v ((commented text inner).and (commented text inner)) (inner.and inner) :=
        (Alike.and_bares _ _).trans (Alike.and_bares inner inner).symm
      rw [houter.report, hinner, report?_commented]
    · -- The names are the same, and the shapes inside accept what they accept alone by induction.
      have hself : ∀ t ∈ c.parts, ∀ x, (t.and t).accepts x = t.accepts x := by
        intro t ht x
        have hmem := mem_parts_of_constraint? hc ht
        exact accepts_eq_of_withoutRepeats (ih t hmem (hs.part hmem) x)
      have hmerged : Alike v (merged s s (andConstraints c c)) s := by
        refine .of_constraint? rfl hc (report_andConstraints_self c) fun entries _ => ?_
        exact holdsOn_andConstraints_self (hs.here.distinct c hc) hself
      rw [and_of_constraint? hc, absorb_of_constraint? hc, hmerged.report]
    · rw [hand, report?_inter_self, Option.map_map]
      refine Option.map_congr fun report _ => ?_
      cases s.isValidation with
      | true => rfl
      | false => exact report.withoutRepeats_both_self

/-- A union or an intersection of a shape with itself accepts what the shape accepts, and tracks the
same keys with the same exactness: the union exactly as the shape does, the intersection up to
repetitions. -/
theorem or_self_and_self (hs : s.Built) (v : Value) :
    (s.or s).accepts v = s.accepts v ∧ (s.and s).accepts v = s.accepts v
      ∧ (s.accepts v = true → ∃ report, s.track v = .ok report)
      ∧ ∀ report, s.track v = .ok report → (s.or s).track v = .ok report
        ∧ ∃ again, (s.and s).track v = .ok again ∧ again.exact = report.exact
          ∧ again.known.map List.eraseDups = report.known.map List.eraseDups := by
  have hor : (s.or s).report? v = s.report? v := by rw [Shape.or, report?_union, Option.or_self]
  have hand := hs.formed.report?_and_self v
  refine ⟨?_, accepts_eq_of_withoutRepeats hand, ?_, ?_⟩
  · rw [Bool.eq_iff_iff, accepts_iff_report?, accepts_iff_report?, hor]
  · intro haccepts
    obtain ⟨report, htrack, -⟩ := accepts_iff_permits.1 haccepts
    exact ⟨report, htrack⟩
  · intro report htrack
    rw [track_eq_ok_iff] at htrack
    refine ⟨track_eq_ok_iff.2 (hor.trans htrack), ?_⟩
    rw [htrack] at hand
    obtain ⟨again, hagain, hsame⟩ := Option.map_eq_some_iff.1 hand
    obtain ⟨hknown, hexact⟩ := KeyReport.mk.inj hsame
    exact ⟨again, track_eq_ok_iff.2 hagain, hexact, hknown⟩

theorem or_self_and_self_repeated :
    ∃ again,
      (((exactRecord [("a", ⟨any, .required⟩)]).or (dictOf any)).and
          ((exactRecord [("a", ⟨any, .required⟩)]).or (dictOf any))).track
          (.object [("a", .null)]) = .ok again
        ∧ again.exact = true ∧ again.known.map List.eraseDups = some ["a"] := by
  have hs : ((exactRecord [("a", ⟨any, .required⟩)]).or (dictOf any)).Built :=
    .or (.fields true (by simpa using .any)) (.dict none .any)
  obtain ⟨-, -, -, htrack⟩ := or_self_and_self hs (.object [("a", .null)])
  exact (htrack ⟨some ["a"], true⟩ rfl).2

end Shape

end ShapeCheck
