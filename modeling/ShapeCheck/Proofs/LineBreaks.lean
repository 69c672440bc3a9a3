import ShapeCheck.Proofs.Parts
import ShapeCheck.Value.Inspect

/-!
# Breaking lines

A value is written on one line or broken over several, and each value inside a broken one is again
written in one of the two ways. The two writers place brackets, separators, names and keys
independently of each other. What they have in common is everything but the spaces and newlines, and
it does not matter which of the values inside have been broken.
-/

namespace ShapeCheck

namespace Text

/-- A text without its spaces and newlines. -/
def unspaced (text : String) : String :=
  String.ofList (text.toList.filter fun c => c != ' ' && c != '\n')

@[simp] theorem unspaced_append (text more : String) :
    unspaced (text ++ more) = unspaced text ++ unspaced more := by
  rw [unspaced, String.toList_append, List.filter_append, String.ofList_append]
  rfl

theorem unspaced_intercalate (separator : String) (parts : List String) :
    unspaced (separator.intercalate parts)
      = (unspaced separator).intercalate (parts.map unspaced) := by
  induction parts with
  | nil => rfl
  | cons part parts ih =>
    cases parts with
    | nil => simp
    | cons next parts =>
      rw [String.intercalate_cons_cons, unspaced_append, unspaced_append, ih, List.map_cons,
        List.map_cons, List.map_cons, String.intercalate_cons_cons]

theorem unspaced_pushn (text : String) (n : Nat) :
    unspaced (text.pushn ' ' n) = unspaced text := by
  rw [String.pushn_eq_repeat_push]
  induction n with
  | zero => rfl
  | succ n ih =>
    rw [Nat.repeat, unspaced, String.toList_push, List.filter_append]
    exact (congrArg String.ofList (List.append_nil _)).trans ih

end Text

namespace Inspect

open Text

@[simp] theorem unspaced_margin (depth : Nat) : unspaced (margin depth) = "" :=
  unspaced_pushn "" (2 * depth)

theorem unspaced_block (opening closing : String) (depth : Nat) (parts : List String) :
    unspaced (block opening closing depth parts)
      = unspaced opening ++ ",".intercalate (parts.map unspaced) ++ unspaced closing := by
  have hnewline : unspaced "\n" = "" := rfl
  have hseparator : unspaced ",\n" = "," := rfl
  simp only [block, unspaced_append, unspaced_intercalate, unspaced_margin, hnewline, hseparator,
    String.append_empty]

theorem unspaced_bracketLine (parts : List String) :
    unspaced (bracketLine parts) = "[" ++ ",".intercalate (parts.map unspaced) ++ "]" := by
  rw [bracketLine, unspaced_append, unspaced_append, unspaced_intercalate]
  rfl

theorem unspaced_braceLine (header : String) (parts : List String) :
    unspaced (braceLine header parts)
      = unspaced header ++ "\x7b" ++ ",".intercalate (parts.map unspaced) ++ "\x7d" := by
  have hopening : unspaced "\x7b " = "\x7b" := rfl
  have hclosing : unspaced " \x7d" = "\x7d" := rfl
  have hseparator : unspaced ", " = "," := rfl
  have hempty : unspaced "\x7b\x7d" = "\x7b" ++ "\x7d" := rfl
  cases parts with
  | nil =>
    rw [braceLine, List.isEmpty_nil, if_pos rfl, unspaced_append, hempty, List.map_nil,
      String.intercalate_nil, String.append_empty, String.append_assoc]
  | cons part parts =>
    rw [braceLine, List.isEmpty_cons, if_neg Bool.false_ne_true]
    simp only [unspaced_append, unspaced_intercalate, hopening, hclosing, hseparator]

/-- A block in braces and the line in braces that stands for it. -/
theorem unspaced_block_eq_braceLine {opening header : String} {blocks parts : List String}
    (hopening : unspaced opening = unspaced header ++ "\x7b")
    (h : blocks.map unspaced = parts.map unspaced) (depth : Nat) :
    unspaced (block opening "\x7d" depth blocks) = unspaced (braceLine header parts) := by
  rw [unspaced_block, unspaced_braceLine, hopening, h]
  rfl

section Parts

variable [DateFormat] {depth : Nat}

theorem unspaced_child {v : Value} (h : unspaced (v.broken (depth + 1)) = unspaced v.line) :
    unspaced (if fits depth v.line then v.line else v.broken (depth + 1)) = unspaced v.line := by
  split
  · rfl
  · exact h

theorem map_unspaced_slotBlocks {slots : List (Option Value)}
    (h : ∀ v, some v ∈ slots → unspaced (v.broken (depth + 1)) = unspaced v.line) :
    (slotBlocks slots depth).map unspaced = (slotLines slots).map unspaced := by
  induction slots with
  | nil => rfl
  | cons slot slots ih =>
    have hrest := ih fun v hv => h v (List.mem_cons_of_mem _ hv)
    cases slot with
    | none =>
      rw [slotBlocks, slotLines, List.map_cons, List.map_cons, hrest]
      simp
    | some v =>
      rw [slotBlocks, slotLines, List.map_cons, List.map_cons, hrest, unspaced_append,
        unspaced_child (h v List.mem_cons_self)]
      simp

theorem map_unspaced_entryBlocks {entries : List (String × Value)}
    (h : ∀ entry ∈ entries, unspaced (entry.2.broken (depth + 1)) = unspaced entry.2.line) :
    (entryBlocks entries depth).map unspaced = (entryLines entries).map unspaced := by
  induction entries with
  | nil => rfl
  | cons entry entries ih =>
    obtain ⟨key, v⟩ := entry
    have hrest := ih fun entry hentry => h entry (List.mem_cons_of_mem _ hentry)
    rw [entryBlocks, entryLines, List.map_cons, List.map_cons, hrest, unspaced_append,
      unspaced_child (h (key, v) List.mem_cons_self)]
    simp

theorem map_unspaced_pairBlocks {entries : List (Value × Value)}
    (h : ∀ entry ∈ entries, unspaced (entry.2.broken (depth + 1)) = unspaced entry.2.line) :
    (pairBlocks entries depth).map unspaced = (pairLines entries).map unspaced := by
  induction entries with
  | nil => rfl
  | cons entry entries ih =>
    obtain ⟨k, v⟩ := entry
    have hrest := ih fun entry hentry => h entry (List.mem_cons_of_mem _ hentry)
    rw [pairBlocks, pairLines, List.map_cons, List.map_cons, hrest, unspaced_append,
      unspaced_child (h (k, v) List.mem_cons_self)]
    simp

theorem map_unspaced_itemBlocks {items : List Value}
    (h : ∀ v ∈ items, unspaced (v.broken (depth + 1)) = unspaced v.line) :
    (itemBlocks items depth).map unspaced = (itemLines items).map unspaced := by
  induction items with
  | nil => rfl
  | cons v items ih =>
    have hrest := ih fun v hv => h v (List.mem_cons_of_mem _ hv)
    rw [itemBlocks, itemLines, List.map_cons, List.map_cons, hrest, unspaced_append,
      unspaced_child (h v List.mem_cons_self)]
    simp

end Parts

end Inspect

namespace Value

open Inspect Text

/-- Breaking a value and any of the values inside it changes spaces and newlines only. -/
theorem unspaced_broken [DateFormat] (v : Value) (depth : Nat) :
    unspaced (v.broken depth) = unspaced v.line := by
  induction v using induction_on_parts generalizing depth with
  | step v ih =>
    cases v with
    | array slots =>
      cases slots with
      | nil => rfl
      | cons slot slots =>
        have hslots : (slotBlocks (slot :: slots) depth).map unspaced
            = (slotLines (slot :: slots)).map unspaced :=
          map_unspaced_slotBlocks fun v hv => ih v (List.reduceOption_mem_iff.2 hv) (depth + 1)
        rw [broken, line, unspaced_block, unspaced_bracketLine, hslots]
        rfl
    | object entries =>
      cases entries with
      | nil => rfl
      | cons entry entries =>
        rw [broken, line]
        refine unspaced_block_eq_braceLine (by decide)
          (map_unspaced_entryBlocks fun entry hentry => ?_) depth
        exact ih entry.2 (List.mem_map_of_mem hentry) (depth + 1)
    | «instance» cls entries =>
      cases entries with
      | nil => rfl
      | cons entry entries =>
        have hopening : unspaced (cls.name ++ " \x7b") = unspaced (cls.name ++ " ") ++ "\x7b" := by
          rw [unspaced_append, unspaced_append, String.append_assoc]
          rfl
        rw [broken, line]
        refine unspaced_block_eq_braceLine hopening
          (map_unspaced_entryBlocks fun entry hentry => ?_) depth
        exact ih entry.2 (List.mem_map_of_mem hentry) (depth + 1)
    | map entries =>
      cases entries with
      | nil => rfl
      | cons entry entries =>
        rw [broken, line]
        refine unspaced_block_eq_braceLine (by decide)
          (map_unspaced_pairBlocks fun entry hentry => ?_) depth
        exact ih entry.2 (List.mem_flatMap.2 ⟨entry, hentry, by simp⟩) (depth + 1)
    | set items =>
      cases items with
      | nil => rfl
      | cons item items =>
        rw [broken, line]
        exact unspaced_block_eq_braceLine (by decide)
          (map_unspaced_itemBlocks fun v hv => ih v hv (depth + 1)) depth
    | _ => rfl

/-- Whether a value is broken or not, the same is shown of it. -/
theorem unspaced_inspect [DateFormat] (v : Value) : unspaced v.inspect = unspaced v.line := by
  rw [inspect]
  split
  · rfl
  · exact v.unspaced_broken 0

end Value

end ShapeCheck
