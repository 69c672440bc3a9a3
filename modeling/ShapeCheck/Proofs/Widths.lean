import ShapeCheck.Proofs.Parts
import ShapeCheck.Value.Inspect

/-!
# The lines of a shown value

A value is laid out in lines. If it stays on one line, that is all there is. If it is broken, it has
a line that opens it, the lines of its places and a line that closes it, where a place is a slot, an
item or an entry. In front of what is in a place stand its margin and, in records and maps, its key,
and a comma may stand behind it. Whether it is broken is decided by the margin and its own text, so
that a line gets too wide only by what else stands on it. In arrays and sets this is at most a
comma.
-/

namespace ShapeCheck

namespace Inspect

/-- What stands on a line between the key and the comma. -/
inductive Content where
  | inline (v : Value)
  | opening (v : Value)
  | closing (v : Value)
  | hole

/-- A line of a shown value. If a name in it holds newlines, it makes several lines of the text, all
of them narrower. -/
structure TextLine where
  depth : Nat
  /-- A key with its separator, or nothing. -/
  lead : String
  content : Content
  comma : Bool

/-- A place of a broken container: what leads up to it, the value in it, if it is no hole, and
whether another place follows. -/
structure Place where
  lead : String
  part : Option Value
  comma : Bool

/-- Places with commas between them. -/
def separated : List (String × Option Value) → List Place
  | [] => []
  | (lead, part) :: rest => ⟨lead, part, !rest.isEmpty⟩ :: separated rest

theorem mem_of_mem_separated {place : Place} {leads : List (String × Option Value)}
    (h : place ∈ separated leads) : (place.lead, place.part) ∈ leads := by
  induction leads with
  | nil => cases h
  | cons first rest ih =>
    obtain rfl | h := List.mem_cons.1 h
    · exact List.mem_cons_self
    · exact List.mem_cons_of_mem _ (ih h)

def commaIf (comma : Bool) : String := if comma then "," else ""

theorem intercalate_flatMap {α : Type} {f : α → List String} (separator : String) {xs : List α}
    (hf : ∀ x ∈ xs, f x ≠ []) :
    separator.intercalate (xs.flatMap f)
      = separator.intercalate (xs.map fun x => separator.intercalate (f x)) := by
  induction xs with
  | nil => rfl
  | cons x xs ih =>
    obtain ⟨hx, hxs⟩ := List.forall_mem_cons.1 hf
    rw [List.flatMap_cons, List.map_cons]
    cases xs with
    | nil => simp
    | cons y ys =>
      have hrest : (y :: ys).flatMap f ≠ [] := by
        rw [List.flatMap_cons]
        exact List.append_ne_nil_of_left_ne_nil (hxs y List.mem_cons_self) _
      rw [String.intercalate_append_of_ne_nil hx hrest, ih hxs, List.map_cons,
        String.intercalate_cons_cons]

/-- A comma between two places ends the line of the first one. -/
theorem intercalate_separated (text : String × Option Value → String)
    (leads : List (String × Option Value)) :
    "\n".intercalate ((separated leads).map fun place =>
        text (place.lead, place.part) ++ commaIf place.comma)
      = ",\n".intercalate (leads.map text) := by
  induction leads with
  | nil => rfl
  | cons first rest ih =>
    cases rest with
    | nil => exact String.append_empty
    | cons second rest =>
      have hcomma (above : String) : above ++ ",\n" = above ++ commaIf true ++ "\n" := by
        rw [String.append_assoc]
        rfl
      rw [List.map_cons, List.map_cons, String.intercalate_cons_cons, ← List.map_cons, ← ih, hcomma]
      exact String.intercalate_cons_cons

end Inspect

open Inspect

namespace Value

variable [DateFormat] {v w : Value} {depth : Nat} {lead : String} {comma : Bool}

/-- What leads up to each place of a container, and what is in it. -/
def leads : Value → List (String × Option Value)
  | array slots => slots.map fun slot => ("", slot)
  | object entries => entries.map fun entry => (Text.showKey entry.1 ++ ": ", some entry.2)
  | map entries => entries.map fun entry => (entry.1.line ++ " => ", some entry.2)
  | set items => items.map fun item => ("", some item)
  | .instance _ entries => entries.map fun entry => (Text.showKey entry.1 ++ ": ", some entry.2)
  | _ => []

def places (v : Value) : List Place := separated v.leads

def opening : Value → String
  | array _ => "["
  | map _ => "Map \x7b"
  | set _ => "Set \x7b"
  | .instance cls _ => cls.name ++ " \x7b"
  | _ => "\x7b"

def closing : Value → String
  | array _ => "]"
  | _ => "\x7d"

/-- Whether a value is a container with something in it. Other values cannot be broken. -/
def isFilled (v : Value) : Bool := !v.leads.isEmpty

/-- Whether a value stays on one line at some depth. -/
def isInline (v : Value) (depth : Nat) : Bool :=
  !v.isFilled || v.line.length + 2 * depth ≤ maxWidth

theorem isFilled_iff : v.isFilled = true ↔ v.leads ≠ [] := by
  rw [isFilled, Bool.not_eq_true', List.isEmpty_eq_false_iff]

theorem isInline_iff :
    v.isInline depth = true ↔ v.leads = [] ∨ v.line.length + 2 * depth ≤ maxWidth := by
  rw [isInline, isFilled, Bool.not_not, Bool.or_eq_true, List.isEmpty_iff, decide_eq_true_eq]

theorem isInline_eq_false_iff :
    v.isInline depth = false ↔ v.leads ≠ [] ∧ maxWidth < v.line.length + 2 * depth := by
  rw [Bool.eq_false_iff, ne_eq, isInline_iff, not_or, Nat.not_le]

theorem mem_parts_of_mem_leads (h : (lead, some w) ∈ v.leads) : w ∈ v.parts := by
  cases v with
  | array slots =>
    obtain ⟨slot, hslot, heq⟩ := List.mem_map.1 h
    cases heq
    exact List.reduceOption_mem_iff.2 hslot
  | object entries | «instance» cls entries =>
    obtain ⟨entry, hentry, heq⟩ := List.mem_map.1 h
    cases heq
    exact List.mem_map_of_mem hentry
  | map entries =>
    obtain ⟨entry, hentry, heq⟩ := List.mem_map.1 h
    cases heq
    exact List.mem_flatMap.2 ⟨entry, hentry, by simp⟩
  | set items =>
    obtain ⟨item, hitem, heq⟩ := List.mem_map.1 h
    cases heq
    exact hitem
  | _ => cases h

theorem mem_parts_of_mem_places {place : Place} (h : place ∈ v.places)
    (hpart : place.part = some w) : w ∈ v.parts := by
  have hlead := mem_of_mem_separated h
  rw [hpart] at hlead
  exact mem_parts_of_mem_leads hlead

theorem places_ne_nil (h : v.leads ≠ []) : v.places ≠ [] := by
  obtain ⟨first, rest, hleads⟩ := List.exists_cons_of_ne_nil h
  rw [places, hleads]
  exact List.cons_ne_nil _ _

/-- The lines of a value at some depth, with what leads up to it and with the comma behind it. -/
def layoutAt (v : Value) (depth : Nat) (lead : String) (comma : Bool) : List TextLine :=
  if v.isInline depth then [⟨depth, lead, .inline v, comma⟩]
  else
    ⟨depth, lead, .opening v, false⟩
      :: (v.places.attach.flatMap fun place =>
        match hpart : place.val.part with
        | none => [⟨depth + 1, place.val.lead, .hole, place.val.comma⟩]
        | some w => w.layoutAt (depth + 1) place.val.lead place.val.comma)
      ++ [⟨depth, "", .closing v, comma⟩]
termination_by sizeOf v
decreasing_by exact sizeOf_lt_of_mem_value_parts (mem_parts_of_mem_places place.property hpart)

/-- The lines of a value as it is shown. -/
def layout (v : Value) : List TextLine := v.layoutAt 0 "" false

end Value

namespace Inspect

variable [DateFormat]

/-- The lines of what is in a place. -/
def Place.layoutAt (place : Place) (depth : Nat) : List TextLine :=
  match place.part with
  | none => [⟨depth, place.lead, .hole, place.comma⟩]
  | some w => w.layoutAt depth place.lead place.comma

theorem Place.layoutAt_of_part {place : Place} {w : Value} (h : place.part = some w)
    (depth : Nat) : place.layoutAt depth = w.layoutAt depth place.lead place.comma := by
  rw [layoutAt, h]

end Inspect

namespace Value

variable [DateFormat] {v w : Value} {depth : Nat} {lead : String} {comma : Bool} {place : Place}

theorem layoutAt_of_isInline (h : v.isInline depth = true) :
    v.layoutAt depth lead comma = [⟨depth, lead, .inline v, comma⟩] := by
  rw [layoutAt, if_pos h]

theorem layoutAt_of_not_isInline (h : v.isInline depth = false) :
    v.layoutAt depth lead comma
      = ⟨depth, lead, .opening v, false⟩
        :: v.places.flatMap (fun place => place.layoutAt (depth + 1))
        ++ [⟨depth, "", .closing v, comma⟩] := by
  rw [layoutAt, if_neg (by rw [h]; exact Bool.false_ne_true)]
  have hplaces : (v.places.attach.flatMap fun place =>
        match hpart : place.val.part with
        | none => [⟨depth + 1, place.val.lead, .hole, place.val.comma⟩]
        | some w => w.layoutAt (depth + 1) place.val.lead place.val.comma)
      = v.places.flatMap fun place => place.layoutAt (depth + 1) := by
    rw [List.flatMap_subtype (g := fun place => place.layoutAt (depth + 1)), List.unattach_attach]
    intro place hplace
    unfold Place.layoutAt
    split <;> simp_all
  rw [hplaces]

theorem layoutAt_ne_nil (v : Value) (depth : Nat) (lead : String) (comma : Bool) :
    v.layoutAt depth lead comma ≠ [] := by
  cases h : v.isInline depth with
  | true =>
    rw [layoutAt_of_isInline h]
    exact List.cons_ne_nil _ _
  | false =>
    rw [layoutAt_of_not_isInline h]
    exact List.cons_ne_nil _ _

theorem layoutAt_place_ne_nil (place : Place) (depth : Nat) : place.layoutAt depth ≠ [] := by
  rw [Place.layoutAt]
  split
  · exact List.cons_ne_nil _ _
  · exact layoutAt_ne_nil _ _ _ _

/-- The lines of a place are lines of the container. -/
theorem layoutAt_subset_of_place (h : v.isInline depth = false) (hplace : place ∈ v.places)
    (lead : String) (comma : Bool) :
    place.layoutAt (depth + 1) ⊆ v.layoutAt depth lead comma := by
  intro line hline
  rw [layoutAt_of_not_isInline h, List.mem_append, List.mem_cons, List.mem_flatMap]
  exact .inl (.inr ⟨place, hplace, hline⟩)

/-- A value has its own line first, whether it stays on it or not. -/
theorem exists_mem_layoutAt (v : Value) (depth : Nat) (lead : String) (comma : Bool) :
    ∃ line ∈ v.layoutAt depth lead comma, line.depth = depth ∧ line.lead = lead
      ∧ line.content = if v.isInline depth then .inline v else .opening v := by
  cases h : v.isInline depth with
  | true =>
    rw [layoutAt_of_isInline h]
    exact ⟨_, List.mem_cons_self, rfl, rfl, rfl⟩
  | false =>
    rw [layoutAt_of_not_isInline h]
    exact ⟨_, List.mem_cons_self, rfl, rfl, rfl⟩

theorem layoutAt_subset_of_part (h : v.isInline depth = false) (hplace : place ∈ v.places)
    (hpart : place.part = some w) (lead : String) (comma : Bool) :
    w.layoutAt (depth + 1) place.lead place.comma ⊆ v.layoutAt depth lead comma := by
  rw [← Place.layoutAt_of_part hpart]
  exact layoutAt_subset_of_place h hplace lead comma

/-- What a line can be. -/
theorem mem_layoutAt_cases {line : TextLine} (h : line ∈ v.layoutAt depth lead comma) :
    (v.isInline depth = true ∧ line = ⟨depth, lead, .inline v, comma⟩)
      ∨ v.isInline depth = false
        ∧ (line = ⟨depth, lead, .opening v, false⟩ ∨ line = ⟨depth, "", .closing v, comma⟩
          ∨ (∃ place ∈ v.places, line = ⟨depth + 1, place.lead, .hole, place.comma⟩)
          ∨ ∃ place ∈ v.places, ∃ w, place.part = some w
            ∧ line ∈ w.layoutAt (depth + 1) place.lead place.comma) := by
  cases hv : v.isInline depth with
  | true =>
    rw [layoutAt_of_isInline hv, List.mem_singleton] at h
    exact .inl ⟨rfl, h⟩
  | false =>
    rw [layoutAt_of_not_isInline hv, List.mem_append, List.mem_cons, List.mem_flatMap,
      List.mem_singleton] at h
    refine .inr ⟨rfl, ?_⟩
    obtain (hopening | ⟨place, hplace, hline⟩) | hclosing := h
    · exact .inl hopening
    · cases hpart : place.part with
      | none =>
        rw [Place.layoutAt, hpart, List.mem_singleton] at hline
        exact .inr (.inr (.inl ⟨place, hplace, hline⟩))
      | some w =>
        rw [Place.layoutAt_of_part hpart] at hline
        exact .inr (.inr (.inr ⟨place, hplace, w, hpart, hline⟩))
    · exact .inr (.inl hclosing)

/-- A value that stands on a line has been asked whether it stays there, and if it does not, the
lines of its places are in the layout too. -/
theorem isInline_of_mem_layoutAt {line : TextLine} (h : line ∈ v.layoutAt depth lead comma) :
    (line.content = .inline w → w.isInline line.depth = true)
      ∧ (line.content = .opening w → w.isInline line.depth = false
          ∧ ∀ place ∈ w.places, place.layoutAt (line.depth + 1) ⊆ v.layoutAt depth lead comma) := by
  induction v using induction_on_parts generalizing depth lead comma with
  | step v ih =>
    obtain ⟨hv, rfl⟩ | ⟨hv, rfl | rfl | ⟨place, hplace, rfl⟩ | ⟨place, hplace, x, hpart, hline⟩⟩ :=
      mem_layoutAt_cases h
    · refine ⟨?_, nofun⟩
      rintro ⟨⟩
      exact hv
    · refine ⟨nofun, ?_⟩
      rintro ⟨⟩
      exact ⟨hv, fun place hplace => layoutAt_subset_of_place hv hplace lead comma⟩
    · exact ⟨nofun, nofun⟩
    · exact ⟨nofun, nofun⟩
    · obtain ⟨hinline, hopening⟩ := ih x (mem_parts_of_mem_places hplace hpart) hline
      refine ⟨hinline, fun hcontent => ?_⟩
      obtain ⟨hwide, hplaces⟩ := hopening hcontent
      exact ⟨hwide, fun p hp =>
        List.Subset.trans (hplaces p hp) (layoutAt_subset_of_part hv hplace hpart lead comma)⟩

/-- A value that stays on a line is the one that is laid out, or is in a place of one that is
broken. -/
theorem eq_or_place_of_mem_layoutAt {line : TextLine} (h : line ∈ v.layoutAt depth lead comma)
    (hcontent : line.content = .inline w) :
    (w = v ∧ line.depth = depth ∧ line.lead = lead)
      ∨ ∃ above ∈ v.layoutAt depth lead comma, ∃ u, above.content = .opening u
          ∧ ∃ place ∈ u.places, place.part = some w ∧ line.depth = above.depth + 1
            ∧ line.lead = place.lead := by
  induction v using induction_on_parts generalizing depth lead comma with
  | step v ih =>
    obtain ⟨hv, rfl⟩ | ⟨hv, rfl | rfl | ⟨place, hplace, rfl⟩ | ⟨place, hplace, x, hpart, hline⟩⟩ :=
      mem_layoutAt_cases h
    · cases hcontent
      exact .inl ⟨rfl, rfl, rfl⟩
    · cases hcontent
    · cases hcontent
    · cases hcontent
    · obtain ⟨rfl, hdepth, hlead⟩ | ⟨above, habove, u, hu⟩ :=
        ih x (mem_parts_of_mem_places hplace hpart) hline
      · have hopening : ⟨depth, lead, .opening v, false⟩ ∈ v.layoutAt depth lead comma := by
          rw [layoutAt_of_not_isInline hv]
          exact List.mem_cons_self
        exact .inr ⟨_, hopening, v, rfl, place, hplace, hpart, hdepth, hlead⟩
      · exact .inr ⟨above, layoutAt_subset_of_part hv hplace hpart lead comma habove, u, hu⟩

/-- A container with something in it stays on its line exactly if its margin and its text fit. -/
theorem exists_entry_of_opening {line : TextLine} {x : Value} (hline : line ∈ v.layout)
    (hcontent : line.content = .opening w) (hplace : place ∈ w.places)
    (hpart : place.part = some x) (hfilled : x.isFilled = true) :
    ∃ entry ∈ v.layout, entry.depth = line.depth + 1 ∧ entry.lead = place.lead
      ∧ entry.content
        = if x.line.length + 2 * (line.depth + 1) ≤ maxWidth then .inline x else .opening x := by
  obtain ⟨-, hplaces⟩ := (isInline_of_mem_layoutAt hline).2 hcontent
  obtain ⟨entry, hentry, hdepth, hlead, hstands⟩ :=
    x.exists_mem_layoutAt (line.depth + 1) place.lead place.comma
  rw [← Place.layoutAt_of_part hpart] at hentry
  refine ⟨entry, hplaces place hplace hentry, hdepth, hlead, ?_⟩
  rw [hstands, isInline, hfilled, Bool.not_true, Bool.false_or]
  simp only [decide_eq_true_eq]

theorem fits_of_inline {line : TextLine} (hline : line ∈ v.layout)
    (hcontent : line.content = .inline w) (hfilled : w.isFilled = true) :
    w.line.length + 2 * line.depth ≤ maxWidth := by
  have hinline := (isInline_of_mem_layoutAt hline).1 hcontent
  exact (isInline_iff.1 hinline).resolve_left (isFilled_iff.1 hfilled)

/-- The text of a value at some depth. -/
def textAt (v : Value) (depth : Nat) : String :=
  if v.line.length + 2 * depth ≤ maxWidth then v.line else v.broken depth

theorem inspect_eq_textAt (v : Value) : v.inspect = v.textAt 0 := rfl

end Value

namespace Inspect

variable [DateFormat] {depth : Nat}

def Content.text : Content → String
  | inline v => v.line
  | opening v => v.opening
  | closing v => v.closing
  | hole => "<empty>"

def TextLine.text (line : TextLine) : String :=
  margin line.depth ++ line.lead ++ line.content.text ++ commaIf line.comma

/-- The width of a line without its comma. -/
def TextLine.width (line : TextLine) : Nat :=
  2 * line.depth + line.lead.length + line.content.text.length

theorem TextLine.length_text (line : TextLine) :
    line.text.length = line.width + (commaIf line.comma).length := by
  simp only [text, width, String.length_append, margin, String.length_pushn, String.length_empty,
    Nat.zero_add]

/-- What is in a place, behind its margin and what leads up to it. -/
def leadText (depth : Nat) (place : String × Option Value) : String :=
  margin depth ++ place.1 ++ place.2.elim "<empty>" fun v => v.textAt depth

theorem child_eq_textAt (v : Value) (depth : Nat) :
    (if fits depth v.line then v.line else v.broken (depth + 1)) = v.textAt (depth + 1) := by
  simp only [fits, decide_eq_true_eq, Value.textAt]

theorem slotBlocks_eq_map (slots : List (Option Value)) (depth : Nat) :
    slotBlocks slots depth = slots.map fun slot => leadText (depth + 1) ("", slot) := by
  induction slots with
  | nil => rfl
  | cons slot slots ih =>
    rw [List.map_cons, leadText, String.append_empty]
    cases slot with
    | none =>
      rw [slotBlocks, ih]
      rfl
    | some v =>
      rw [slotBlocks, ih, child_eq_textAt]
      rfl

theorem itemBlocks_eq_map (items : List Value) (depth : Nat) :
    itemBlocks items depth = items.map fun item => leadText (depth + 1) ("", some item) := by
  induction items with
  | nil => rfl
  | cons v items ih =>
    rw [itemBlocks, ih, List.map_cons, leadText, String.append_empty, child_eq_textAt]
    rfl

theorem entryBlocks_eq_map (entries : List (String × Value)) (depth : Nat) :
    entryBlocks entries depth = entries.map fun entry =>
      leadText (depth + 1) (Text.showKey entry.1 ++ ": ", some entry.2) := by
  induction entries with
  | nil => rfl
  | cons entry entries ih =>
    rw [entryBlocks, ih, List.map_cons, leadText, child_eq_textAt, ← String.append_assoc]
    rfl

theorem pairBlocks_eq_map (entries : List (Value × Value)) (depth : Nat) :
    pairBlocks entries depth = entries.map fun entry =>
      leadText (depth + 1) (entry.1.line ++ " => ", some entry.2) := by
  induction entries with
  | nil => rfl
  | cons entry entries ih =>
    rw [pairBlocks, ih, List.map_cons, leadText, child_eq_textAt, ← String.append_assoc]
    rfl

end Inspect

namespace Value

section

variable [DateFormat] {v : Value} {depth : Nat}

theorem broken_of_leads_eq_nil (h : v.leads = []) (depth : Nat) : v.broken depth = v.line := by
  cases v with
  | array entries | object entries | map entries | set entries | «instance» cls entries =>
    cases List.map_eq_nil_iff.1 h
    rfl
  | _ => rfl

theorem broken_of_leads_ne_nil (h : v.leads ≠ []) (depth : Nat) :
    v.broken depth
      = block v.opening v.closing depth (v.leads.map (leadText (depth + 1))) := by
  cases v with
  | array slots =>
    cases slots with
    | nil => exact absurd rfl h
    | cons slot slots =>
      rw [broken, slotBlocks_eq_map, leads, List.map_map]
      rfl
  | object entries | «instance» cls entries =>
    cases entries with
    | nil => exact absurd rfl h
    | cons entry entries =>
      rw [broken, entryBlocks_eq_map, leads, List.map_map]
      rfl
  | map entries =>
    cases entries with
    | nil => exact absurd rfl h
    | cons entry entries =>
      rw [broken, pairBlocks_eq_map, leads, List.map_map]
      rfl
  | set items =>
    cases items with
    | nil => exact absurd rfl h
    | cons item items =>
      rw [broken, itemBlocks_eq_map, leads, List.map_map]
      rfl
  | _ => exact absurd rfl h

theorem textAt_of_isInline (h : v.isInline depth = true) : v.textAt depth = v.line := by
  rw [textAt]
  split
  · rfl
  · rename_i hwide
    exact broken_of_leads_eq_nil ((isInline_iff.1 h).resolve_right hwide) depth

theorem textAt_of_not_isInline (h : v.isInline depth = false) :
    v.textAt depth = block v.opening v.closing depth (v.leads.map (leadText (depth + 1))) := by
  obtain ⟨hleads, hwide⟩ := isInline_eq_false_iff.1 h
  rw [textAt, if_neg (Nat.not_le.2 hwide), broken_of_leads_ne_nil hleads]

/-- The lines of a value at some depth are its text, with what leads up to it and the comma. -/
theorem intercalate_text_layoutAt (v : Value) (depth : Nat) (lead : String) (comma : Bool) :
    "\n".intercalate ((v.layoutAt depth lead comma).map TextLine.text)
      = leadText depth (lead, some v) ++ commaIf comma := by
  induction v using induction_on_parts generalizing depth lead comma with
  | step v ih =>
    have hlead : leadText depth (lead, some v) = margin depth ++ lead ++ v.textAt depth := rfl
    cases h : v.isInline depth with
    | true =>
      rw [layoutAt_of_isInline h, List.map_singleton, String.intercalate_singleton, hlead,
        textAt_of_isInline h]
      rfl
    | false =>
      have hplace : ∀ place ∈ v.places,
          "\n".intercalate ((place.layoutAt (depth + 1)).map TextLine.text)
            = leadText (depth + 1) (place.lead, place.part) ++ commaIf place.comma := by
        intro place hplace
        obtain ⟨lead, part, comma⟩ := place
        cases part with
        | none => rfl
        | some w => exact ih w (mem_parts_of_mem_places hplace rfl) (depth + 1) lead comma
      have hne (place : Place) : (place.layoutAt (depth + 1)).map TextLine.text ≠ [] :=
        mt List.map_eq_nil_iff.1 (layoutAt_place_ne_nil place _)
      have hplaces : "\n".intercalate
            ((v.places.flatMap fun place => place.layoutAt (depth + 1)).map TextLine.text)
          = ",\n".intercalate (v.leads.map (leadText (depth + 1))) := by
        rw [List.map_flatMap, intercalate_flatMap "\n" (fun place _ => hne place),
          List.map_congr_left hplace]
        exact intercalate_separated _ _
      have hmap : (v.places.flatMap fun place => place.layoutAt (depth + 1)).map TextLine.text
          ≠ [] := by
        obtain ⟨place, hmem⟩ :=
          List.exists_mem_of_ne_nil _ (places_ne_nil (isInline_eq_false_iff.1 h).1)
        rw [List.map_flatMap]
        exact fun hnil => hne place (List.flatMap_eq_nil_iff.1 hnil place hmem)
      rw [layoutAt_of_not_isInline h, hlead, textAt_of_not_isInline h, List.map_append,
        List.map_cons, List.map_singleton,
        String.intercalate_append_of_ne_nil (List.cons_ne_nil _ _) (List.cons_ne_nil _ _),
        String.intercalate_cons_of_ne_nil hmap, hplaces]
      simp [TextLine.text, Content.text, commaIf, block, String.append_assoc]

theorem width_of_content {line : TextLine} (h : line.content = .inline v) :
    line.width = 2 * line.depth + line.lead.length + v.line.length := by
  rw [TextLine.width, h, Content.text]

/-- A value is shown line by line. Every entry of a broken container has a line, and if it is itself
a container with something in it, it stays on that line exactly if its margin and its text fit. So
such a line gets too wide only by the key in front of the entry and the comma behind it, and, commas
apart, no line does if all entries that fit behind their margins also fit behind their keys. -/
theorem layout_breaks_wide_entries (v : Value) :
    v.inspect = "\n".intercalate (v.layout.map TextLine.text)
      ∧ (∀ line ∈ v.layout, line.text.length = line.width + (commaIf line.comma).length)
      ∧ (∀ line ∈ v.layout, ∀ w : Value, line.content = .opening w →
          ∀ place ∈ w.places, ∀ x : Value, place.part = some x → x.isFilled = true →
            ∃ entry ∈ v.layout, entry.depth = line.depth + 1 ∧ entry.lead = place.lead
              ∧ entry.content
                = if x.line.length + 2 * (line.depth + 1) ≤ maxWidth then .inline x
                  else .opening x)
      ∧ (∀ line ∈ v.layout, ∀ w : Value, line.content = .inline w → w.isFilled = true →
          line.width ≤ maxWidth + line.lead.length)
      ∧ ((∀ line ∈ v.layout, maxWidth < line.width →
            ∀ w : Value, line.content = .inline w → w.isFilled = false)
        ↔ ∀ line ∈ v.layout, ∀ w : Value, line.content = .opening w →
          ∀ place ∈ w.places, ∀ x : Value, place.part = some x → x.isFilled = true →
            x.line.length + 2 * (line.depth + 1) ≤ maxWidth →
              place.lead.length + x.line.length + 2 * (line.depth + 1) ≤ maxWidth) := by
  refine ⟨?_, ?_, ?_, ?_, ?_, ?_⟩
  · rw [layout, intercalate_text_layoutAt, inspect_eq_textAt]
    exact (String.append_empty.trans String.empty_append).symm
  · intro line _
    exact line.length_text
  · intro line hline w hcontent place hplace x
    exact exists_entry_of_opening hline hcontent hplace
  · intro line hline w hcontent hfilled
    have hfits := fits_of_inline hline hcontent hfilled
    rw [width_of_content hcontent]
    omega
  · intro hnarrow line hline w hcontent place hplace x hpart hfilled hfits
    obtain ⟨entry, hentry, hdepth, hlead, hstands⟩ :=
      exists_entry_of_opening hline hcontent hplace hpart hfilled
    rw [if_pos hfits] at hstands
    by_contra hwide
    have hentryWidth := width_of_content hstands
    rw [hdepth, hlead] at hentryWidth
    have hempty := hnarrow entry hentry (by omega) x hstands
    rw [hfilled] at hempty
    cases hempty
  · intro hkeys line hline hwide w hcontent
    by_contra hfilled
    rw [Bool.not_eq_false] at hfilled
    have hfits := fits_of_inline hline hcontent hfilled
    rw [width_of_content hcontent] at hwide
    obtain ⟨rfl, hdepth, hlead⟩ | ⟨above, habove, u, hu, place, hplace, hpart, hdepth, hlead⟩ :=
      eq_or_place_of_mem_layoutAt hline hcontent
    · rw [hdepth, hlead, String.length_empty] at hwide
      omega
    · rw [hdepth] at hfits hwide
      have hkey := hkeys above habove u hu place hplace w hpart hfilled hfits
      rw [hlead] at hwide
      omega

end

/-- No map stands anywhere inside. -/
def Mapless (v : Value) : Prop :=
  ∀ w : Value, w.InsideOf v → ∀ entries, w ≠ .map entries

theorem Mapless.of_parts {v : Value} (here : ∀ entries, v ≠ .map entries)
    (hparts : ∀ w ∈ v.parts, w.Mapless) : v.Mapless := by
  intro w hw
  obtain rfl | ⟨u, hu, hmem⟩ := Relation.ReflTransGen.cases_tail_iff _ _ _ |>.1 hw
  · exact here
  · exact hparts u hmem w hu

attribute [local instance] DateFormat.epoch

/-- The key of an entry does not count: an array stays behind it on a line that is too wide. -/
theorem not_layout_breaks_wide_lines :
    ¬ ∀ v : Value, v.Mapless → ∀ line ∈ v.layout, maxWidth < line.width →
        ∀ w : Value, line.content = .inline w → w.isFilled = false := by
  intro h
  have hnull : Mapless .null := .of_parts nofun nofun
  have harray : Mapless (.array [some .null, some .null, some .null, some .null, some .null]) :=
    .of_parts nofun (by simp [parts, hnull])
  have hrecord : Mapless (.object [("a_record_key_that_is_wider_than_half_a_line",
      .array [some .null, some .null, some .null, some .null, some .null])]) :=
    .of_parts nofun (by simp [parts, harray])
  have hline : ⟨1, "a_record_key_that_is_wider_than_half_a_line: ",
        .inline (.array [some .null, some .null, some .null, some .null, some .null]), false⟩
      ∈ (Value.object [("a_record_key_that_is_wider_than_half_a_line",
        .array [some .null, some .null, some .null, some .null, some .null])]).layout := by
    refine layoutAt_subset_of_place (by decide) List.mem_cons_self "" false ?_
    rw [Place.layoutAt_of_part rfl, layoutAt_of_isInline (by decide)]
    exact List.mem_cons_self
  exact absurd (h _ hrecord _ hline (by decide) _ rfl) (by decide)

end Value

end ShapeCheck
