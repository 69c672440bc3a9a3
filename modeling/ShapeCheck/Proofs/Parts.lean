import Mathlib.Data.List.ReduceOption
import Mathlib.Logic.Relation
import ShapeCheck.Shape.Build

/-!
# Shapes inside shapes, and values inside values

A constraint on records is looked at through its two sides, a record shape and a dictionary, each
of which may be missing. The parts of a shape are the shapes right inside it, those of a constraint
that is checked included, and what holds of a shape whenever it holds of its parts holds of every
shape. The parts of a value are the values right inside it, keys of maps included.
-/

namespace ShapeCheck

namespace Value

/-- The values right inside a value. -/
def parts : Value → List Value
  | array slots => slots.reduceOption
  | object entries => entries.map (·.2)
  | map entries => entries.flatMap fun entry => [entry.1, entry.2]
  | set items => items
  | .instance _ entries => entries.map (·.2)
  | _ => []

/-- Whether a value is another one or stands anywhere inside it. -/
def InsideOf (w v : Value) : Prop := Relation.ReflTransGen (fun w v => w ∈ v.parts) w v

/-- No record anywhere inside holds the undefined value as an entry. -/
def Defined (v : Value) : Prop :=
  ∀ w : Value, w.InsideOf v → ∀ entries, w.record? = some entries → ∀ entry ∈ entries,
    entry.2.isUndefined = false

theorem sizeOf_lt_of_mem_value_parts {v w : Value} (h : w ∈ v.parts) : sizeOf w < sizeOf v := by
  have inEntries {entries : List (String × Value)} (hw : w ∈ entries.map (·.2)) :
      sizeOf w < sizeOf entries := by
    obtain ⟨⟨key, x⟩, hentry, rfl⟩ := List.mem_map.1 hw
    have := List.sizeOf_lt_of_mem hentry
    simp only [Prod.mk.sizeOf_spec] at this ⊢
    omega
  cases v with
  | array slots =>
    have := List.sizeOf_lt_of_mem (List.reduceOption_mem_iff.1 h)
    simp only [Option.some.sizeOf_spec, array.sizeOf_spec] at this ⊢
    omega
  | object | «instance» =>
    have := inEntries h
    simp only [object.sizeOf_spec, instance.sizeOf_spec]
    omega
  | map entries =>
    obtain ⟨⟨key, x⟩, hentry, hw⟩ := List.mem_flatMap.1 h
    have := List.sizeOf_lt_of_mem hentry
    simp only [List.mem_cons, List.not_mem_nil, or_false] at hw
    simp only [Prod.mk.sizeOf_spec, map.sizeOf_spec] at this ⊢
    obtain rfl | rfl := hw <;> omega
  | set items =>
    have : sizeOf w < sizeOf items := List.sizeOf_lt_of_mem h
    simp only [set.sizeOf_spec]
    omega
  | _ => cases h

/-- Induction over the parts of a value. -/
theorem induction_on_parts {motive : Value → Prop}
    (step : ∀ v : Value, (∀ w ∈ v.parts, motive w) → motive v) (v : Value) : motive v :=
  step v fun w _ => induction_on_parts step w
termination_by sizeOf v
decreasing_by exact sizeOf_lt_of_mem_value_parts ‹_›

theorem mem_parts_of_record? {v : Value} {entries : List (String × Value)}
    (h : v.record? = some entries) {entry : String × Value} (hentry : entry ∈ entries) :
    entry.2 ∈ v.parts := by
  cases v with
  | object | «instance» =>
    cases h
    exact List.mem_map_of_mem hentry
  | _ => cases h

namespace Defined

variable {v : Value} {entries : List (String × Value)} {entry : String × Value}

theorem entry_defined (h : v.Defined) (hv : v.record? = some entries) (hentry : entry ∈ entries) :
    entry.2.isUndefined = false :=
  h v .refl entries hv entry hentry

theorem of_parts (here : ∀ entries, v.record? = some entries → ∀ entry ∈ entries,
    entry.2.isUndefined = false) (hparts : ∀ w ∈ v.parts, w.Defined) : v.Defined := by
  intro w hw
  obtain rfl | ⟨u, hu, hmem⟩ := Relation.ReflTransGen.cases_tail_iff _ _ _ |>.1 hw
  · exact here
  · exact hparts u hmem w hu

theorem inside_entry (h : v.Defined) (hv : v.record? = some entries) (hentry : entry ∈ entries) :
    entry.2.Defined :=
  fun w hw => h w (hw.tail (mem_parts_of_record? hv hentry))

end Defined

end Value

namespace Constraint

variable {σ : Type}

/-- The record shape of a constraint. -/
def record? : Constraint σ → Option (RecordShape σ)
  | record r => some r
  | dict _ => none
  | both r _ => some r

/-- The dictionary of a constraint. -/
def dict? : Constraint σ → Option (DictShape σ)
  | record _ => none
  | dict d => some d
  | both _ d => some d

/-- The fields of a constraint. A dictionary alone has none. -/
def fields (c : Constraint σ) : List (String × Field σ) :=
  c.record?.elim [] (·.fields)

/-- The shapes right inside a constraint. -/
def parts (c : Constraint σ) : List σ :=
  c.fields.map (·.2.shape) ++ c.dict?.toList.map (·.value)

@[simp] theorem record?_record (r : RecordShape σ) : (record r).record? = some r := rfl

@[simp] theorem record?_dict (d : DictShape σ) : (dict d).record? = none := rfl

@[simp] theorem record?_both (r : RecordShape σ) (d : DictShape σ) :
    (both r d).record? = some r := rfl

@[simp] theorem dict?_record (r : RecordShape σ) : (record r).dict? = none := rfl

@[simp] theorem dict?_dict (d : DictShape σ) : (dict d).dict? = some d := rfl

@[simp] theorem dict?_both (r : RecordShape σ) (d : DictShape σ) : (both r d).dict? = some d := rfl

theorem fields_eq {c : Constraint σ} {r : RecordShape σ} (h : c.record? = some r) :
    c.fields = r.fields := by
  rw [fields, h, Option.elim_some]

theorem mem_parts_iff {c : Constraint σ} {t : σ} :
    t ∈ c.parts ↔
      (∃ field ∈ c.fields, field.2.shape = t) ∨ ∃ d, c.dict? = some d ∧ d.value = t := by
  simp [parts]

theorem mem_parts_of_field {c : Constraint σ} {field : String × Field σ} (h : field ∈ c.fields) :
    field.2.shape ∈ c.parts :=
  mem_parts_iff.2 (.inl ⟨field, h, rfl⟩)

theorem mem_parts_of_dict? {c : Constraint σ} {d : DictShape σ} (h : c.dict? = some d) :
    d.value ∈ c.parts :=
  mem_parts_iff.2 (.inr ⟨d, h, rfl⟩)

/-- What is inside a constraint is smaller than the constraint. -/
theorem sizeOf_lt_of_mem_parts [SizeOf σ] {c : Constraint σ} {t : σ} (h : t ∈ c.parts) :
    sizeOf t < sizeOf c := by
  have inFields {r : RecordShape σ} {field : String × Field σ} (hf : field ∈ r.fields) :
      sizeOf field.2.shape < sizeOf r := by
    obtain ⟨name, ⟨shape, presence⟩⟩ := field
    obtain ⟨fields, exact⟩ := r
    have := List.sizeOf_lt_of_mem hf
    simp only [Prod.mk.sizeOf_spec, Field.mk.sizeOf_spec, RecordShape.mk.sizeOf_spec] at this ⊢
    omega
  have inDict (d : DictShape σ) : sizeOf d.value < sizeOf d := by
    obtain ⟨keyName, value⟩ := d
    simp only [DictShape.mk.sizeOf_spec]
    omega
  obtain ⟨field, hf, rfl⟩ | ⟨d, hd, rfl⟩ := mem_parts_iff.1 h
  · cases c with
    | record r =>
      have := inFields (r := r) hf
      simp only [record.sizeOf_spec]
      omega
    | dict d => cases hf
    | both r d =>
      have := inFields (r := r) hf
      simp only [both.sizeOf_spec]
      omega
  · cases c with
    | record r => cases hd
    | dict e =>
      cases hd
      have := inDict d
      simp only [dict.sizeOf_spec]
      omega
    | both r e =>
      cases hd
      have := inDict d
      simp only [both.sizeOf_spec]
      omega

end Constraint

namespace Shape

/-- The shapes right inside a shape. A merged shape has those inside its constraint beside the two
that it is shown as. -/
def parts : Shape → List Shape
  | array element => [element]
  | map key value => [key, value]
  | set element => [element]
  | record r => (Constraint.record r).parts
  | dict d => (Constraint.dict d).parts
  | union left right => [left, right]
  | inter left right => [left, right]
  | merged left right c => left :: right :: c.parts
  | commented _ inner => [inner]
  | _ => []

theorem sizeOf_lt_of_mem_shape_parts {s t : Shape} (h : t ∈ s.parts) : sizeOf t < sizeOf s := by
  cases s with
  | record r =>
    have := Constraint.sizeOf_lt_of_mem_parts (c := .record r) h
    simpa using this
  | dict d =>
    have := Constraint.sizeOf_lt_of_mem_parts (c := .dict d) h
    simpa using this
  | merged left right c =>
    have inside : t ∈ c.parts → sizeOf t < sizeOf c := Constraint.sizeOf_lt_of_mem_parts
    simp only [parts, List.mem_cons] at h
    simp only [merged.sizeOf_spec]
    obtain rfl | rfl | h := h
    · omega
    · omega
    · have := inside h
      omega
  | map key value | union left right | inter left right =>
    simp only [parts, List.mem_cons, List.not_mem_nil, or_false] at h
    rcases h with rfl | rfl <;> simp +arith
  | array element | set element | commented text inner =>
    rw [List.mem_singleton.1 h]
    simp +arith
  | _ => cases h

/-- Induction over the parts of a shape. -/
theorem induction_on_parts {motive : Shape → Prop}
    (step : ∀ s, (∀ t ∈ s.parts, motive t) → motive s) (s : Shape) : motive s :=
  step s fun t _ => induction_on_parts step t
termination_by sizeOf s
decreasing_by exact sizeOf_lt_of_mem_shape_parts ‹_›

/-- Whether a shape is another one or stands anywhere inside it. -/
def InsideOf (t s : Shape) : Prop := Relation.ReflTransGen (fun t s => t ∈ s.parts) t s

namespace InsideOf

variable {s t u : Shape}

theorem self (s : Shape) : s.InsideOf s := .refl

theorem of_mem_parts (h : t ∈ s.parts) (hu : u.InsideOf t) : u.InsideOf s := hu.tail h

theorem iff_parts : u.InsideOf s ↔ u = s ∨ ∃ t ∈ s.parts, u.InsideOf t := by
  rw [InsideOf, Relation.ReflTransGen.cases_tail_iff]
  constructor
  · rintro (rfl | ⟨t, hu, ht⟩)
    · exact .inl rfl
    · exact .inr ⟨t, ht, hu⟩
  · rintro (rfl | ⟨t, ht, hu⟩)
    · exact .inl rfl
    · exact .inr ⟨t, hu, ht⟩

end InsideOf

/-- A property of a shape and of everything inside it. -/
def Throughout (p : Shape → Prop) (s : Shape) : Prop := ∀ t, t.InsideOf s → p t

namespace Throughout

variable {p q : Shape → Prop} {s t : Shape}

theorem here (h : s.Throughout p) : p s := h s (.self s)

theorem part (h : s.Throughout p) (ht : t ∈ s.parts) : t.Throughout p :=
  fun _ hu => h _ (.of_mem_parts ht hu)

theorem iff_parts : s.Throughout p ↔ p s ∧ ∀ t ∈ s.parts, t.Throughout p := by
  constructor
  · intro h
    exact ⟨h.here, fun t ht => h.part ht⟩
  · rintro ⟨hs, hparts⟩ u hu
    obtain rfl | ⟨t, ht, hu⟩ := InsideOf.iff_parts.1 hu
    · exact hs
    · exact hparts t ht u hu

end Throughout

end Shape

end ShapeCheck
