import ShapeCheck.Proofs.Built
import ShapeCheck.Proofs.Outline

/-!
# What a merged shape is made of

A merged shape is shown as the two shapes that were put together and checked by one constraint. The
shapes it is shown as, taken apart as long as they are merged themselves, are record shapes and
dictionaries, and they determine what is seen of the constraint besides the shapes inside it: its
names and presences, whether it forbids unknown keys, and whether it has a dictionary. The brackets
that the operands were put together with are not seen.
-/

namespace ShapeCheck

/-- What is seen of a constraint without the shapes inside it. -/
structure Constraint.Outline where
  fields : List (String × Presence)
  /-- Whether unknown keys are forbidden, for a constraint with a record shape. -/
  exactness : Option Bool
  hasDict : Bool
deriving DecidableEq, Repr

def Constraint.outline (c : Constraint Shape) : Constraint.Outline where
  fields := c.fields.map fun field => (field.1, field.2.presence)
  exactness := c.record?.map (·.exact)
  hasDict := c.dict?.isSome

/-- The names of record shapes in the order in which they first come. -/
def RecordShape.names (rs : List (RecordShape Shape)) : List String :=
  (rs.flatMap fun r => Entries.keys r.fields).eraseDups

/-- What is demanded of a name by the record shapes that have it. -/
def RecordShape.demands (rs : List (RecordShape Shape)) (name : String) : List Presence :=
  rs.filterMap fun r => (Entries.get? r.fields name).map (·.presence)

namespace Constraint.Outlines

variable {c : Constraint Shape} {cs : List (Constraint Shape)}

theorem flatMap_keys_fields (cs : List (Constraint Shape)) :
    (cs.flatMap fun d => Entries.keys d.fields)
      = (cs.filterMap (·.record?)).flatMap fun r => Entries.keys r.fields := by
  induction cs with
  | nil => rfl
  | cons d cs ih =>
    rw [List.flatMap_cons, ih]
    cases d <;> rfl

theorem filterMap_get?_fields (cs : List (Constraint Shape)) (name : String) :
    (cs.filterMap fun d => Entries.get? d.fields name)
      = (cs.filterMap (·.record?)).filterMap fun r => Entries.get? r.fields name := by
  rw [List.filterMap_filterMap]
  refine List.filterMap_congr fun d _ => ?_
  cases d <;> rfl

theorem presence_eq (h : c.Outlines cs) {name : String} {f : Field Shape}
    (hf : Entries.get? c.fields name = some f) :
    f.presence = .strictest (RecordShape.demands (cs.filterMap (·.record?)) name) := by
  have hpresences := h.presences name
  rw [hf, filterMap_get?_fields] at hpresences
  rw [hpresences.of_some, List.map_filterMap]
  rfl

/-- The fields of a combined constraint, up to the shapes inside. -/
theorem fields_outline (h : c.Outlines cs) (hc : (Entries.keys c.fields).Nodup) :
    c.outline.fields = (RecordShape.names (cs.filterMap (·.record?))).map fun name =>
      (name, .strictest (RecordShape.demands (cs.filterMap (·.record?)) name)) := by
  have hnames : Entries.keys c.fields = RecordShape.names (cs.filterMap (·.record?)) := by
    rw [h.names, flatMap_keys_fields]
    rfl
  rw [← hnames, Entries.keys, List.map_map, outline]
  refine List.map_congr_left fun field hfield => ?_
  have hget : Entries.get? c.fields field.1 = some field.2 := (Entries.get?_eq_some_iff hc).2 hfield
  rw [h.presence_eq hget]
  rfl

theorem exactness_outline (h : c.Outlines cs) :
    c.outline.exactness = if cs.filterMap (·.record?) = [] then none
      else some ((cs.filterMap (·.record?)).all (·.exact)) := by
  have hexact := h.exact
  rw [outline]
  cases hr : c.record? with
  | none =>
    rw [hr] at hexact
    rw [if_pos (hexact.eq_none_iff.1 rfl)]
    rfl
  | some r =>
    rw [hr] at hexact
    have hne : cs.filterMap (·.record?) ≠ [] := fun hnil =>
      Option.some_ne_none r (hexact.eq_none_iff.2 hnil)
    rw [if_neg hne, ← hexact.of_some]
    rfl

theorem hasDict_outline (h : c.Outlines cs) :
    c.outline.hasDict = !(cs.filterMap (·.dict?)).isEmpty := by
  rw [outline, ← Option.not_isNone, Bool.not_inj_iff, Bool.eq_iff_iff, Option.isNone_iff_eq_none,
    h.dict.eq_none_iff, List.isEmpty_iff]

end Constraint.Outlines

namespace Shape

variable {s t left right : Shape} {c : Constraint Shape}

/-- The shapes that a merged shape is shown as, taken apart as long as they are merged. -/
def operands : Shape → List Shape
  | merged left right _ => left.operands ++ right.operands
  | s => [s]

/-- The record shapes among shapes. -/
def records (ss : List Shape) : List (RecordShape Shape) :=
  ss.filterMap fun
    | record r => some r
    | _ => none

theorem Throughout.inside {p : Shape → Prop} (h : s.Throughout p) (ht : t.InsideOf s) :
    t.Throughout p :=
  fun _ hu => h _ (hu.trans ht)

/-- Taking a merged shape apart ends at record shapes and dictionaries. -/
theorem record_or_dict_of_mem_operands (hs : s.Formed) (hc : s.constraint? = some c) :
    ∀ o ∈ s.operands, (∃ r, o = record r) ∨ ∃ d, o = dict d := by
  apply hs.constraint_induction
    (R := fun s _ => ∀ o ∈ s.operands, (∃ r, o = record r) ∨ ∃ d, o = dict d)
  case hc => exact hc
  case record => exact fun r _ => List.forall_mem_singleton.2 (.inl ⟨r, rfl⟩)
  case dict => exact fun d => List.forall_mem_singleton.2 (.inr ⟨d, rfl⟩)
  case merged => exact fun _ _ _ _ hleft hright => List.forall_mem_append.2 ⟨hleft, hright⟩

/-- The constraint that is checked has the outline of the operands. -/
theorem outlines_operands (hs : s.Formed) (hc : s.constraint? = some c) :
    c.Outlines (s.operands.filterMap (·.constraint?)) := by
  apply hs.constraint_induction (R := fun s c => c.Outlines (s.operands.filterMap (·.constraint?)))
  case hc => exact hc
  case record => exact fun r hr => .single hr
  case dict => exact fun d => .single List.nodup_nil
  case merged =>
    intro left right a b hleft hright
    rw [operands, List.filterMap_append]
    exact hleft.and hright

section

variable {ss : List Shape} (hss : ∀ o ∈ ss, (∃ r, o = record r) ∨ ∃ d, o = dict d)

include hss

theorem filterMap_record?_eq_records :
    (ss.filterMap (·.constraint?)).filterMap (·.record?) = records ss := by
  rw [List.filterMap_filterMap, records]
  refine List.filterMap_congr fun o ho => ?_
  obtain ⟨r, rfl⟩ | ⟨d, rfl⟩ := hss o ho <;> rfl

theorem record?_eq_none_iff_forall_dict (h : c.Outlines (ss.filterMap (·.constraint?))) :
    c.record? = none ↔ ∀ o ∈ ss, ∃ d, o = dict d := by
  rw [h.exact.eq_none_iff, List.filterMap_filterMap, List.filterMap_eq_nil_iff]
  refine forall₂_congr fun o ho => ?_
  obtain ⟨r, rfl⟩ | ⟨d, rfl⟩ := hss o ho <;> simp [constraint?]

theorem dict?_eq_none_iff_forall_record (h : c.Outlines (ss.filterMap (·.constraint?))) :
    c.dict? = none ↔ ∀ o ∈ ss, ∃ r, o = record r := by
  rw [h.dict.eq_none_iff, List.filterMap_filterMap, List.filterMap_eq_nil_iff]
  refine forall₂_congr fun o ho => ?_
  obtain ⟨r, rfl⟩ | ⟨d, rfl⟩ := hss o ho <;> simp [constraint?]

end

/-- Constraints that have the outline of the same others look alike. -/
theorem outline_eq_of_outlines {c' : Constraint Shape} {cs : List (Constraint Shape)}
    (h : c.Outlines cs) (h' : c'.Outlines cs) (hc : (Entries.keys c.fields).Nodup)
    (hc' : (Entries.keys c'.fields).Nodup) : c'.outline = c.outline := by
  rw [Constraint.Outline.mk.injEq, h.fields_outline hc, h'.fields_outline hc', h.exactness_outline,
    h'.exactness_outline, h.hasDict_outline, h'.hasDict_outline]
  exact ⟨rfl, rfl, rfl⟩

/-- The operands that a merged shape is made of decide what its constraint looks like. It is a
record shape or a dictionary if all operands are, and both side by side if both occur. Its names are
those of the record shapes in the order in which they first come, each as strict as the strictest,
and unknown keys are forbidden if all record shapes forbid them. -/
theorem merged_of_operands (hs : s.Built) (h : (merged left right c).InsideOf s) {ss : List Shape}
    (hss : (merged left right c).operands = ss) :
    (∀ o ∈ ss, (∃ r, o = record r) ∨ ∃ d, o = dict d)
      ∧ (c.asRecord?.isSome = true ↔ ∀ o ∈ ss, ∃ r, o = record r)
      ∧ (c.asDict?.isSome = true ↔ ∀ o ∈ ss, ∃ d, o = dict d)
      ∧ c.outline.fields = ((RecordShape.names (records ss)).map fun name =>
        (name, .strictest (RecordShape.demands (records ss) name)))
      ∧ (∀ r, c.record? = some r → r.exact = (records ss).all (·.exact))
      ∧ ((∃ r, record r ∈ ss) → (∃ d, dict d ∈ ss) → ∃ r d, c = .both r d)
      ∧ ∀ t left' right' c', t.Built → (merged left' right' c').InsideOf t →
        (merged left' right' c').operands = ss → c'.outline = c.outline := by
  subst hss
  have hformed := hs.formed.inside h
  have hkinds := record_or_dict_of_mem_operands hformed rfl
  have houtlines := outlines_operands hformed rfl
  have hdicts := record?_eq_none_iff_forall_dict hkinds houtlines
  have hrecords := dict?_eq_none_iff_forall_record hkinds houtlines
  refine ⟨hkinds, ?_, ?_, ?_, ?_, ?_, ?_⟩
  · rw [← hrecords]
    cases c <;> simp [Constraint.asRecord?]
  · rw [← hdicts]
    cases c <;> simp [Constraint.asDict?]
  · rw [houtlines.fields_outline (hformed.here.distinct c rfl), filterMap_record?_eq_records hkinds]
  · intro r hr
    have hexact := houtlines.exact
    rw [hr, filterMap_record?_eq_records hkinds] at hexact
    exact hexact.of_some
  · rintro ⟨r, hr⟩ ⟨d, hd⟩
    have hr' : c.record? ≠ none := fun hnone => nomatch hdicts.1 hnone _ hr
    have hd' : c.dict? ≠ none := fun hnone => nomatch hrecords.1 hnone _ hd
    cases c with
    | record r => exact absurd rfl hd'
    | dict d => exact absurd rfl hr'
    | both r d => exact ⟨r, d, rfl⟩
  · intro t left' right' c' ht h' hss
    have hformed' := ht.formed.inside h'
    have houtlines' := outlines_operands hformed' rfl
    rw [hss] at houtlines'
    exact outline_eq_of_outlines houtlines houtlines' (hformed.here.distinct c rfl)
      (hformed'.here.distinct c' rfl)

theorem merged_of_operands_bracketed :
    ∃ left right c,
      ((exactRecord [("b", ⟨any, .optional⟩), ("a", ⟨any, .optional⟩)]).and (dictOf any)).and
          (openRecord [("a", ⟨any, .required⟩), ("c", ⟨any, .allowMissing⟩)])
          = merged left right c
        ∧ c.outline.fields = [("b", .optional), ("a", .required), ("c", .allowMissing)]
        ∧ (∃ r d, c = .both r d)
        ∧ ∀ left' right' c',
          (exactRecord [("b", ⟨any, .optional⟩), ("a", ⟨any, .optional⟩)]).and ((dictOf any).and
            (openRecord [("a", ⟨any, .required⟩), ("c", ⟨any, .allowMissing⟩)]))
            = merged left' right' c' → c'.outline = c.outline := by
  have hany {fields : List (String × Field Shape)} (h : ∀ field ∈ fields, field.2.shape = any)
      (exact : Bool) : (ofFields fields exact).Built :=
    .fields exact fun field hfield => (h field hfield).symm ▸ .any
  have hleft : (exactRecord [("b", ⟨any, .optional⟩), ("a", ⟨any, .optional⟩)]).Built :=
    hany (by simp) true
  have hright : (openRecord [("a", ⟨any, .required⟩), ("c", ⟨any, .allowMissing⟩)]).Built :=
    hany (by simp) false
  have hdict : (dictOf any).Built := .dict none .any
  refine ⟨_, _, _, rfl, ?_⟩
  obtain ⟨-, -, -, hfields, -, hboth, hbrackets⟩ :=
    merged_of_operands ((hleft.and hdict).and hright) (.self _) rfl
  refine ⟨hfields, hboth ⟨_, List.mem_cons_self⟩ ⟨_, .tail _ List.mem_cons_self⟩, ?_⟩
  intro left' right' c' h'
  have hbuilt := hleft.and (hdict.and hright)
  rw [h'] at hbuilt
  refine hbrackets _ left' right' c' hbuilt (.self _) ?_
  rw [← h']
  rfl

end Shape

end ShapeCheck
