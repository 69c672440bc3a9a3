import ShapeCheck.Document.Basic
import ShapeCheck.Proofs.Equality
import ShapeCheck.Proofs.Rounding

/-!
# Which values have documents

A value has a document unless it is undefined or holds something that documents lack, where only
arrays and plain objects are looked into: a hole or an undefined item does no harm, and neither does
an undefined entry.

Every finite number has a document, and the document is the same rational number, but for one. The
integer next above the range of integers is capped to the largest one in the range, which is no
number itself and rounds back to the integer that was capped.
-/

namespace ShapeCheck

/-- The rational number that a document is, if it is a finite number. -/
def Document.value? : Document → Option ℚ
  | .int n => some n
  | .float x => x.value?
  | _ => none

theorem minInteger_le_maxInteger : minInteger ≤ maxInteger := by decide +kernel

namespace Double

variable {x : Double} {d : Document}

theorem isFinite_of_integer? {n : Int} (h : x.integer? = some n) : x.isFinite = true :=
  exists_value?_iff.1 ⟨n, value?_eq_some_intCast_iff.2 h⟩

/-- The ways in which a number becomes a document. -/
inductive BecomesDocument (x : Double) : Document → Prop where
  | integer {n : Int} (h : x.integer? = some n) (hmin : minInteger ≤ n) (hmax : n ≤ maxInteger) :
    BecomesDocument x (.int n)
  | capped (h : x.integer? = some (maxInteger + 1)) : BecomesDocument x (.int maxInteger)
  | float (hfinite : x.isFinite = true)
    (h : ∀ n, x.integer? = some n → n < minInteger ∨ maxInteger + 1 < n) :
    BecomesDocument x (.float x)

theorem toDocument?_eq_some_iff : x.toDocument? = some d ↔ x.BecomesDocument d := by
  have hrange := minInteger_le_maxInteger
  unfold toDocument?
  constructor
  · intro h
    split at h
    case h_1 n hn =>
      split at h
      case isTrue hin =>
        cases h
        exact .integer hn hin.1 hin.2
      case isFalse hout =>
        split at h
        case isTrue hcap =>
          cases h
          exact .capped (hcap ▸ hn)
        case isFalse hfar =>
          cases h
          refine .float (isFinite_of_integer? hn) fun m hm => ?_
          cases hn.symm.trans hm
          omega
    case h_2 hn =>
      rw [Option.ite_none_right_eq_some] at h
      obtain ⟨hfinite, h⟩ := h
      cases h
      exact .float hfinite (by simp [hn])
  · intro h
    cases h with
    | integer h hmin hmax => simp [h, hmin, hmax]
    | capped h =>
      have hout : ¬maxInteger + 1 ≤ maxInteger := by omega
      simp [h, hout]
    | float hfinite h =>
      cases hn : x.integer? with
      | none => simp [hfinite]
      | some n =>
        have hfar := h n hn
        have hout : ¬(minInteger ≤ n ∧ n ≤ maxInteger) := by omega
        have hcap : n ≠ maxInteger + 1 := by omega
        simp [hout, hcap]

/-- Finite numbers are those that become documents. -/
theorem isSome_toDocument? (x : Double) : x.toDocument?.isSome = x.isFinite := by
  unfold toDocument?
  cases hn : x.integer? with
  | none => cases x.isFinite <;> rfl
  | some n =>
    rw [isFinite_of_integer? hn]
    simp only [apply_ite Option.isSome, Option.isSome_some, ite_self]

/-- The number that a document of a number becomes is equal to it. -/
theorem BecomesDocument.equal_ofDocument (h : x.BecomesDocument d) :
    (Value.ofDocument d).Equal (.number x) := by
  cases h with
  | integer h =>
    rw [Value.ofDocument, Value.ofInt, Value.Equal, Value.equals_number]
    exact ofInt_equals h
  | capped h =>
    -- The largest integer of the range is no number, and rounds to the next one.
    have hround : ofInt maxInteger = ofInt (maxInteger + 1) := by decide +kernel
    rw [Value.ofDocument, Value.ofInt, Value.Equal, Value.equals_number, hround]
    exact ofInt_equals h
  | float hfinite =>
    rw [Value.ofDocument, Value.Equal, Value.equals_number]
    exact equals_of_place_eq hfinite hfinite rfl

/-- The document of a finite number is the same rational number, unless the number is the integer
next above the range of integers, whose document is the largest one in the range. -/
theorem exists_document_value [DateFormat] (hx : x.isFinite = true) :
    ∃ q d, x.value? = some q ∧ (Value.number x).toDocument? = some d
      ∧ (q ≠ (maxInteger + 1 : Int) → d.value? = some q)
      ∧ (q = (maxInteger + 1 : Int) → d = .int maxInteger) := by
  obtain ⟨q, hq⟩ := exists_value?_iff.2 hx
  obtain ⟨d, hd⟩ := Option.isSome_iff_exists.1 (x.isSome_toDocument?.trans hx)
  refine ⟨q, d, hq, hd, ?_⟩
  cases toDocument?_eq_some_iff.1 hd with
  | @integer n h hmin hmax =>
    cases hq.symm.trans (value?_eq_some_intCast_iff.2 h)
    refine ⟨fun _ => rfl, fun hcap => ?_⟩
    have hn : n = maxInteger + 1 := by exact_mod_cast hcap
    omega
  | capped h =>
    cases hq.symm.trans (value?_eq_some_intCast_iff.2 h)
    exact ⟨fun hne => absurd rfl hne, fun _ => rfl⟩
  | float hfinite h =>
    refine ⟨fun _ => hq, ?_⟩
    rintro rfl
    have hfar := h _ (value?_eq_some_intCast_iff.1 hq)
    have hrange := minInteger_le_maxInteger
    omega

attribute [local instance] DateFormat.epoch

theorem exists_document_value_quarter :
    ∃ q d, (ofParts false (1021 * twoPow 52)).value? = some q
      ∧ (Value.number (ofParts false (1021 * twoPow 52))).toDocument? = some d
      ∧ (q ≠ (maxInteger + 1 : Int) → d.value? = some q)
      ∧ (q = (maxInteger + 1 : Int) → d = .int maxInteger) :=
  exists_document_value (by decide +kernel)

/-- The number `2 ^ 63` is finite and is not the number that its document is. -/
theorem not_exists_document_value :
    (ofParts false (1086 * twoPow 52)).isFinite = true
      ∧ ¬∃ q d, (ofParts false (1086 * twoPow 52)).value? = some q
        ∧ (Value.number (ofParts false (1086 * twoPow 52))).toDocument? = some d
        ∧ d.value? = some q := by
  have hx : (ofParts false (1086 * twoPow 52)).integer? = some (maxInteger + 1) := by
    decide +kernel
  generalize ofParts false (1086 * twoPow 52) = x at hx ⊢
  refine ⟨isFinite_of_integer? hx, ?_⟩
  rintro ⟨q, d, hq, hd, hvalue⟩
  cases hq.symm.trans (value?_eq_some_intCast_iff.2 hx)
  cases hd.symm.trans (toDocument?_eq_some_iff.2 (.capped hx))
  have hn : maxInteger = maxInteger + 1 := by exact_mod_cast Option.some.inj hvalue
  omega

end Double

namespace Value

/-- What an array or a plain object holds. Nothing else is looked into for documents. -/
def contents : Value → List Value
  | array slots => slots.reduceOption
  | object entries => entries.map (·.2)
  | _ => []

/-- Whether a value is another one or is held by it through arrays and plain objects. -/
def HeldBy (w v : Value) : Prop := Relation.ReflTransGen (fun w v => w ∈ v.contents) w v

/-- The values that have no document whatever they hold, the undefined value apart. -/
def lacksDocument : Value → Bool
  | symbol _ => true
  | function _ => true
  | map _ => true
  | set _ => true
  | .instance _ _ => true
  | number x => !x.isFinite
  | _ => false

variable {v w : Value}

theorem mem_parts_of_mem_contents (h : w ∈ v.contents) : w ∈ v.parts := by
  cases v with
  | array | object => exact h
  | _ => cases h

theorem exists_heldBy_iff {p : Value → Prop} :
    (∃ w, w.HeldBy v ∧ p w) ↔ p v ∨ ∃ u ∈ v.contents, ∃ w, w.HeldBy u ∧ p w := by
  simp only [HeldBy]
  constructor
  · rintro ⟨w, hw, hp⟩
    obtain rfl | ⟨u, hu, hmem⟩ := (Relation.ReflTransGen.cases_tail_iff _ _ _).1 hw
    · exact .inl hp
    · exact .inr ⟨u, hmem, w, hu, hp⟩
  · rintro (hp | ⟨u, hmem, w, hu, hp⟩)
    · exact ⟨v, .refl, hp⟩
    · exact ⟨w, hu.tail hmem, hp⟩

theorem isUndefined_iff : v.isUndefined = true ↔ v = .undefined := by
  cases v <;> simp [isUndefined]

variable [DateFormat]

/-- Slots have no documents if one of them holds a defined value without one. -/
theorem documentsOfSlots?_eq_none_iff {slots : List (Option Value)} :
    documentsOfSlots? slots = none ↔
      ∃ w ∈ slots.reduceOption, w.isUndefined = false ∧ w.toDocument? = none := by
  induction slots with
  | nil => simp [documentsOfSlots?]
  | cons slot rest ih =>
    cases slot with
    | none => simp [documentsOfSlots?, ih]
    | some w =>
      cases hw : w.isUndefined with
      | true => simp [documentsOfSlots?, ih, hw]
      | false =>
        have hcons : documentsOfSlots? (some w :: rest) = none ↔
            w.toDocument? = none ∨ documentsOfSlots? rest = none := by
          cases hd : w.toDocument? <;> cases hds : documentsOfSlots? rest <;>
            simp [documentsOfSlots?, hw, hd, hds]
        simp [hcons, ih, hw]

/-- Entries have no documents if one of them has a defined value without one. -/
theorem documentsOfEntries?_eq_none_iff {entries : List (String × Value)} :
    documentsOfEntries? entries = none ↔
      ∃ w ∈ entries.map (·.2), w.isUndefined = false ∧ w.toDocument? = none := by
  induction entries with
  | nil => simp [documentsOfEntries?]
  | cons entry rest ih =>
    obtain ⟨key, w⟩ := entry
    cases hw : w.isUndefined with
    | true => simp [documentsOfEntries?, ih, hw]
    | false =>
      have hcons : documentsOfEntries? ((key, w) :: rest) = none ↔
          w.toDocument? = none ∨ documentsOfEntries? rest = none := by
        cases hd : w.toDocument? <;> cases hds : documentsOfEntries? rest <;>
          simp [documentsOfEntries?, hw, hd, hds]
      simp [hcons, ih, hw]

/-- A value has no document because of what it is or because of what it holds. -/
theorem toDocument?_eq_none_iff :
    v.toDocument? = none ↔
      v.isUndefined = true ∨ v.lacksDocument = true
        ∨ ∃ w ∈ v.contents, w.isUndefined = false ∧ w.toDocument? = none := by
  cases v with
  | number x => simp [toDocument?, isUndefined, lacksDocument, contents, ← x.isSome_toDocument?]
  | array slots =>
    rw [toDocument?, Option.map_eq_none_iff, documentsOfSlots?_eq_none_iff]
    simp [isUndefined, lacksDocument, contents]
  | object entries =>
    rw [toDocument?, Option.map_eq_none_iff, documentsOfEntries?_eq_none_iff]
    simp [isUndefined, lacksDocument, contents]
  | _ => simp [toDocument?, isUndefined, lacksDocument, contents]

/-- The undefined value and whatever holds something without a document have none. -/
theorem toDocument?_eq_none_iff_heldBy (v : Value) :
    v.toDocument? = none ↔
      v = .undefined ∨ ∃ w : Value, w.HeldBy v ∧ w.lacksDocument = true := by
  induction v using induction_on_parts with
  | step v ih =>
    rw [toDocument?_eq_none_iff, exists_heldBy_iff, isUndefined_iff]
    refine or_congr_right (or_congr_right (exists_congr fun u => and_congr_right fun hu => ?_))
    have hdocument := ih u (mem_parts_of_mem_contents hu)
    constructor
    · rintro ⟨hdefined, hnone⟩
      refine (hdocument.1 hnone).resolve_left ?_
      rintro rfl
      cases hdefined
    · intro hlacks
      refine ⟨?_, hdocument.2 (.inr hlacks)⟩
      cases u with
      | undefined =>
        -- The undefined value holds nothing.
        obtain h | ⟨_, h, -⟩ := exists_heldBy_iff.1 hlacks <;> cases h
      | _ => rfl

end Value

end ShapeCheck
