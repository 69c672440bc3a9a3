/-!
# Presence of a field

A field may have to be there, may be left out, or may be left out or hold the undefined value. Where
two shapes ask about one field, the stricter of the two demands holds.
-/

namespace ShapeCheck

inductive Presence where
  /-- The key has to be there. -/
  | required
  /-- The key may be missing, and the undefined value stands for a missing one. -/
  | optional
  /-- The key may be missing. A value that is there has to match, also the undefined one. -/
  | allowMissing
deriving DecidableEq, Repr, Inhabited

namespace Presence

/-- How strict a demand is. -/
def rank : Presence → Nat
  | optional => 0
  | allowMissing => 1
  | required => 2

/-- The stricter of two demands. -/
def stricter (a b : Presence) : Presence := if a.rank < b.rank then b else a

theorem rank_injective {a b : Presence} (h : a.rank = b.rank) : a = b := by
  cases a <;> cases b <;> simp_all [rank]

theorem rank_stricter (a b : Presence) : (a.stricter b).rank = max a.rank b.rank := by
  unfold stricter
  split <;> omega

theorem stricter_comm (a b : Presence) : a.stricter b = b.stricter a :=
  rank_injective (by rw [rank_stricter, rank_stricter, Nat.max_comm])

theorem stricter_assoc (a b c : Presence) :
    (a.stricter b).stricter c = a.stricter (b.stricter c) :=
  rank_injective (by simp only [rank_stricter, Nat.max_assoc])

/-- Two demands as one allow a missing key exactly if both allow it. -/
theorem stricter_eq_required_iff {a b : Presence} :
    a.stricter b = required ↔ a = required ∨ b = required := by
  cases a <;> cases b <;> decide

theorem stricter_eq_optional_iff {a b : Presence} :
    a.stricter b = optional ↔ a = optional ∧ b = optional := by
  cases a <;> cases b <;> decide

@[simp] theorem stricter_self (a : Presence) : a.stricter a = a := by
  simp [stricter]

@[simp] theorem required_stricter (a : Presence) : required.stricter a = required := by
  cases a <;> rfl

end Presence

end ShapeCheck
