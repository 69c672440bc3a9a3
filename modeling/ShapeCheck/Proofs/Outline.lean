import ShapeCheck.Proofs.Combination

/-!
# What a combined constraint looks like

A constraint that has been combined out of others has an outline that only depends on the order of
the others: the names of all of them in the order in which they first come, the strictest presence
for each, exactness if all record shapes are exact, and a dictionary if there is one. Each of these
is an option that stands for the list of what the others have, and two such options are combined as
their lists are appended.
-/

namespace ShapeCheck

namespace Presence

/-- What several demands on one field come to. The key has to be there if one of them says so, and
the undefined value stands for a missing key only if all of them let it. -/
def strictest (demands : List Presence) : Presence :=
  if .required ∈ demands then .required
  else if .allowMissing ∈ demands then .allowMissing
  else .optional

theorem optional_stricter (p : Presence) : optional.stricter p = p := by
  cases p <;> rfl

theorem strictest_singleton (p : Presence) : strictest [p] = p := by
  cases p <;> rfl

theorem strictest_cons (p : Presence) (ps : List Presence) :
    strictest (p :: ps) = p.stricter (strictest ps) := by
  cases p with
  | required => simp [strictest]
  | optional => simp [strictest, optional_stricter]
  | allowMissing =>
    -- Only a later demand for the key itself is stricter.
    by_cases hrequired : required ∈ ps
    · simp [strictest, hrequired, stricter, rank]
    · by_cases hallow : allowMissing ∈ ps <;> simp [strictest, hrequired, hallow, stricter, rank]

/-- Taking the stricter of two demands again and again finds the strictest of all. -/
theorem foldr_stricter (demands : List Presence) (last : Presence) :
    demands.foldr stricter last = (strictest demands).stricter last := by
  induction demands with
  | nil => exact (optional_stricter last).symm
  | cons p ps ih => rw [List.foldr_cons, ih, strictest_cons, stricter_assoc]

theorem foldr_stricter_optional (demands : List Presence) :
    demands.foldr stricter .optional = strictest demands := by
  rw [foldr_stricter, stricter_comm, optional_stricter]

theorem strictest_append (ps qs : List Presence) :
    strictest (ps ++ qs) = (strictest ps).stricter (strictest qs) := by
  rw [← foldr_stricter_optional, List.foldr_append, foldr_stricter_optional, foldr_stricter]

end Presence

/-- An option stands for a list: nothing for nothing, and something for what it is related to. -/
inductive Gathers {α : Type} (R : α → List α → Prop) : Option α → List α → Prop where
  | nothing : Gathers R none []
  | something {a : α} {as : List α} (h : R a as) (hne : as ≠ []) : Gathers R (some a) as

namespace Gathers

variable {α : Type} {R : α → List α → Prop} {m : α → α → α} {x y : Option α} {as bs : List α}

theorem merge (hR : ∀ a b as bs, R a as → R b bs → R (m a b) (as ++ bs)) (hx : Gathers R x as)
    (hy : Gathers R y bs) : Gathers R (Option.merge m x y) (as ++ bs) := by
  cases hx with
  | nothing =>
    rw [Option.merge_none_left, List.nil_append]
    exact hy
  | @something a _ h hne =>
    cases hy with
    | nothing =>
      rw [Option.merge_none_right, List.append_nil]
      exact .something h hne
    | @something b _ h' _ =>
      rw [Option.merge_some_some]
      exact .something (hR a b as bs h h') fun hnil => hne (List.append_eq_nil_iff.1 hnil).1

theorem single {γ : Type} (f : γ → Option α) (c : γ) (hR : ∀ a, f c = some a → R a [a]) :
    Gathers R (f c) ([c].filterMap f) := by
  cases hc : f c with
  | none =>
    rw [List.filterMap_cons_none hc]
    exact .nothing
  | some a =>
    rw [List.filterMap_cons_some hc]
    exact .something (hR a hc) (List.cons_ne_nil _ _)

theorem eq_none_iff (h : Gathers R x as) : x = none ↔ as = [] := by
  cases h with
  | nothing => exact iff_of_true rfl rfl
  | something h hne => exact iff_of_false (Option.some_ne_none _) hne

theorem of_some {a : α} (h : Gathers R (some a) as) : R a as := by
  cases h with
  | something h hne => exact h

end Gathers

theorem filter_eraseDups (keep : String → Bool) (names : List String) :
    names.eraseDups.filter keep = (names.filter keep).eraseDups := by
  match names with
  | [] => rfl
  | name :: names =>
    have ih := filter_eraseDups keep (names.filter fun other => !other == name)
    rw [List.eraseDups_cons]
    cases hkeep : keep name with
    | true =>
      rw [List.filter_cons_of_pos hkeep, List.filter_cons_of_pos hkeep, List.eraseDups_cons, ih,
        List.filter_filter, List.filter_filter]
      simp only [Bool.and_comm]
    | false =>
      have hne : ¬keep name = true := by simp [hkeep]
      rw [List.filter_cons_of_neg hne, List.filter_cons_of_neg hne, ih, List.filter_filter]
      congr 1
      refine List.filter_congr fun other _ => ?_
      by_cases heq : other = name
      · simp [heq, hkeep]
      · simp [heq]
termination_by names.length
decreasing_by exact Nat.lt_succ_of_le (List.length_filter_le _ _)

theorem eraseDups_eq_self {names : List String} (h : names.Nodup) : names.eraseDups = names := by
  induction names with
  | nil => rfl
  | cons name names ih =>
    obtain ⟨hname, hnames⟩ := List.nodup_cons.1 h
    have hfilter : (names.filter fun other => !other == name) = names := by
      refine List.filter_eq_self.2 fun other hother => ?_
      have hne : other ≠ name := fun heq => hname (heq ▸ hother)
      simp [hne]
    rw [List.eraseDups_cons, hfilter, ih hnames]

/-- Where names come first in two lists one after the other. -/
theorem eraseDups_append_eq (names more : List String) :
    (names ++ more).eraseDups
      = names.eraseDups ++ more.eraseDups.removeAll names.eraseDups := by
  rw [List.eraseDups_append]
  congr 1
  simp only [List.removeAll]
  rw [filter_eraseDups]
  simp

/-- What a combined constraint has of its parts, whatever the shapes inside are. -/
structure Constraint.Outlines (c : Constraint Shape) (cs : List (Constraint Shape)) : Prop where
  /-- Names stand in the order in which they first come. -/
  names : Entries.keys c.fields = (cs.flatMap fun d => Entries.keys d.fields).eraseDups
  presences : ∀ name, Gathers (fun f fs => f.presence = .strictest (fs.map (·.presence)))
    (Entries.get? c.fields name) (cs.filterMap fun d => Entries.get? d.fields name)
  exact : Gathers (fun r rs => r.exact = rs.all (·.exact)) c.record? (cs.filterMap (·.record?))
  dict : Gathers (fun _ _ => True) c.dict? (cs.filterMap (·.dict?))

namespace Constraint.Outlines

theorem single {c : Constraint Shape} (h : (Entries.keys c.fields).Nodup) : c.Outlines [c] where
  names := by simp [eraseDups_eq_self h]
  presences name := by
    refine .single (fun d => Entries.get? d.fields name) c ?_
    intro f _
    exact (Presence.strictest_singleton f.presence).symm
  exact := .single Constraint.record? c fun r _ => (Bool.and_true _).symm
  dict := .single Constraint.dict? c fun _ _ => trivial

theorem and {a b : Constraint Shape} {as bs : List (Constraint Shape)} (ha : a.Outlines as)
    (hb : b.Outlines bs) : (Shape.andConstraints a b).Outlines (as ++ bs) where
  names := by
    rw [Shape.keys_fields_andConstraints, ha.names, hb.names, List.flatMap_append,
      eraseDups_append_eq]
  presences name := by
    rw [Shape.get?_fields_andConstraints, List.filterMap_append]
    refine .merge ?_ (ha.presences name) (hb.presences name)
    intro f g fs gs hf hg
    rw [List.map_append, Presence.strictest_append, ← hf, ← hg]
    rfl
  exact := by
    rw [Shape.record?_andConstraints, List.filterMap_append]
    refine .merge ?_ ha.exact hb.exact
    intro r s rs ss hr hs
    rw [Shape.exact_andRecords, List.all_append, hr, hs]
  dict := by
    rw [Shape.dict?_andConstraints, List.filterMap_append]
    exact .merge (fun _ _ _ _ _ _ => trivial) ha.dict hb.dict

end Constraint.Outlines

end ShapeCheck
