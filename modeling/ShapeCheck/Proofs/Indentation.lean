import Mathlib.Data.List.Infix
import ShapeCheck.Proofs.Lifting

/-!
# Lines under indentation

A message is split into lines, indented and joined again once for every failure that it is told
under. What stays of a line is the end of a line: characters come in front of it and lines around
it, but nothing comes right behind it. So a text is said to *end a line* with some characters if one
of its lines does, and whatever the text of a failure is put together from, it ends the lines that
its parts end. Only a carriage return can get lost, if a newline comes to stand behind it.
-/

namespace ShapeCheck

namespace Text

theorem closedLines_of_not_mem {line : List Char} (hne : line ≠ []) (h : '\n' ∉ line) :
    closedLines line = [line] := by
  induction line with
  | nil => exact absurd rfl hne
  | cons c line ih =>
    cases line with
    | nil => rfl
    | cons d line =>
      rw [closedLines_cons, ih (List.cons_ne_nil _ _) (List.not_mem_of_not_mem_cons h), consChar,
        if_neg (List.ne_of_not_mem_cons h).symm]

theorem eq_of_mem_closedLines {line l : List Char} (h : '\n' ∉ line) (hl : l ∈ closedLines line) :
    l = line := by
  cases line with
  | nil => cases hl
  | cons c line =>
    rw [closedLines_of_not_mem (List.cons_ne_nil _ _) h] at hl
    exact List.mem_singleton.1 hl

theorem closedLines_append_newline {line : List Char} (h : '\n' ∉ line) (rest : List Char) :
    closedLines (line ++ '\n' :: rest) = (line ++ ['\n']) :: closedLines rest := by
  induction line with
  | nil =>
    rw [List.nil_append, closedLines_cons]
    cases closedLines rest <;> rfl
  | cons c line ih =>
    rw [List.cons_append, closedLines_cons, ih (List.not_mem_of_not_mem_cons h), consChar,
      if_neg (List.ne_of_not_mem_cons h).symm]
    rfl

/-- Induction over the lines of a text. The last line is not closed, and it may be empty. -/
theorem induction_on_lines {motive : List Char → Prop}
    (last : ∀ line, '\n' ∉ line → motive line)
    (closed : ∀ line rest, '\n' ∉ line → motive rest → motive (line ++ '\n' :: rest))
    (text : List Char) : motive text := by
  by_cases h : '\n' ∈ text
  · obtain ⟨line, rest, htext, hline⟩ := List.eq_append_cons_of_mem h
    rw [htext]
    exact closed line rest hline (induction_on_lines last closed rest)
  · exact last text h
termination_by text.length
decreasing_by
  rw [htext, List.length_append, List.length_cons]
  omega

theorem chomp_of_not_mem {line : List Char} (h : '\n' ∉ line) : chomp line = line :=
  if_neg fun hlast => h (List.mem_of_getLast? hlast)

theorem chomp_append_newline (line : List Char) :
    chomp (line ++ ['\n']) = if line.getLast? = some '\r' then line.dropLast else line := by
  rw [chomp, if_pos List.getLast?_concat, List.dropLast_concat]

theorem chomp_sublist (line : List Char) : (chomp line).Sublist line := by
  rw [chomp]
  split
  · simp only
    split
    · exact (List.dropLast_sublist _).trans (List.dropLast_sublist _)
    · exact List.dropLast_sublist _
  · exact List.Sublist.refl line

theorem chomp_suffix_cons (c : Char) (line : List Char) : chomp line <:+ chomp (c :: line) := by
  induction line using List.reverseRecOn with
  | nil => exact List.nil_suffix
  | append_singleton line d _ =>
    by_cases hd : d = '\n'
    · rw [hd, ← List.cons_append, chomp_append_newline, chomp_append_newline]
      cases line with
      | nil => exact List.nil_suffix
      | cons e line =>
        rw [List.getLast?_cons_cons, List.dropLast_cons_cons]
        split <;> exact List.suffix_cons _ _
    · have hlast (front : List Char) : chomp (front ++ [d]) = front ++ [d] := by
        rw [chomp, List.getLast?_concat, if_neg (by simpa using hd)]
      rw [hlast, ← List.cons_append, hlast]
      exact List.suffix_cons _ _

/-- A character in front makes a line longer or leaves it as it is. -/
theorem exists_mem_closedLines_cons {line text : List Char} (c : Char)
    (h : line ∈ closedLines text) : ∃ l ∈ closedLines (c :: text), chomp line <:+ chomp l := by
  rw [closedLines_cons]
  cases hlines : closedLines text with
  | nil =>
    rw [hlines] at h
    cases h
  | cons first rest =>
    rw [hlines] at h
    rw [consChar]
    split
    · exact ⟨line, List.mem_cons_of_mem _ h, List.suffix_rfl⟩
    · obtain rfl | h := List.mem_cons.1 h
      · exact ⟨_, List.mem_cons_self, chomp_suffix_cons c line⟩
      · exact ⟨line, List.mem_cons_of_mem _ h, List.suffix_rfl⟩

/-- What a line ends with is left when its newline is taken off. -/
theorem suffix_chomp {line part : List Char} (hreturn : '\r' ∉ part) (h : part <:+ line) :
    part <:+ chomp (line ++ ['\n']) := by
  rw [chomp_append_newline]
  split
  next hlast =>
    obtain ⟨front, rfl⟩ := h
    induction part using List.reverseRecOn with
    | nil => exact List.nil_suffix
    | append_singleton part c _ =>
      rw [← List.append_assoc, List.getLast?_concat] at hlast
      cases hlast
      exact absurd (List.mem_append_right _ List.mem_cons_self) hreturn
  next => exact h

/-- Whether some line of a text ends with the given characters. -/
def EndsLine (text line : String) : Prop :=
  ∃ shown ∈ lines text, line.toList <:+ shown.toList

theorem endsLine_iff {text line : String} :
    EndsLine text line ↔ ∃ l ∈ closedLines text.toList, line.toList <:+ chomp l := by
  simp [EndsLine, lines]

theorem mem_of_mem_lines {text line : String} (h : line ∈ lines text) {c : Char}
    (hc : c ∈ line.toList) : c ∈ text.toList := by
  obtain ⟨l, hl, rfl⟩ := List.mem_map.1 h
  rw [String.toList_ofList] at hc
  rw [← flatten_closedLines text.toList]
  exact List.mem_flatten.2 ⟨l, hl, (chomp_sublist l).subset hc⟩

theorem newline_not_mem_of_mem_lines {text line : String} (h : line ∈ lines text) :
    '\n' ∉ line.toList := by
  obtain ⟨l, hl, rfl⟩ := List.mem_map.1 h
  rw [String.toList_ofList]
  generalize text.toList = whole at hl
  induction whole using induction_on_lines with
  | last line hline =>
    rw [eq_of_mem_closedLines hline hl, chomp_of_not_mem hline]
    exact hline
  | closed line rest hline ih =>
    rw [closedLines_append_newline hline] at hl
    obtain rfl | hl := List.mem_cons.1 hl
    · rw [chomp_append_newline]
      split
      · exact fun hmem => hline ((List.dropLast_sublist line).subset hmem)
      · exact hline
    · exact ih hl

namespace EndsLine

variable {text line part : String}

theorem append_left (front : String) (h : EndsLine text line) : EndsLine (front ++ text) line := by
  rw [endsLine_iff] at h ⊢
  rw [String.toList_append]
  induction front.toList with
  | nil => exact h
  | cons c front ih =>
    obtain ⟨l, hl, hsuffix⟩ := ih
    obtain ⟨l', hl', hsuffix'⟩ := exists_mem_closedLines_cons c hl
    exact ⟨l', hl', hsuffix.trans hsuffix'⟩

theorem append_newline (hreturn : '\r' ∉ line.toList) (h : EndsLine text line) (more : String) :
    EndsLine (text ++ "\n" ++ more) line := by
  rw [endsLine_iff] at h ⊢
  rw [String.append_assoc, String.toList_append, String.toList_append]
  show ∃ l ∈ closedLines (text.toList ++ '\n' :: more.toList), _
  obtain ⟨l, hl, hsuffix⟩ := h
  generalize text.toList = whole at hl
  induction whole using induction_on_lines with
  | last t ht =>
    rw [eq_of_mem_closedLines ht hl, chomp_of_not_mem ht] at hsuffix
    rw [closedLines_append_newline ht]
    exact ⟨_, List.mem_cons_self, suffix_chomp hreturn hsuffix⟩
  | closed t rest ht ih =>
    rw [closedLines_append_newline ht] at hl
    rw [List.append_assoc, List.cons_append, closedLines_append_newline ht]
    obtain rfl | hl := List.mem_cons.1 hl
    · exact ⟨_, List.mem_cons_self, hsuffix⟩
    · obtain ⟨l', hl', hsuffix'⟩ := ih hl
      exact ⟨l', List.mem_cons_of_mem _ hl', hsuffix'⟩

theorem intercalate {parts : List String} (hreturn : '\r' ∉ line.toList) (hpart : part ∈ parts)
    (h : EndsLine part line) : EndsLine ("\n".intercalate parts) line := by
  induction parts with
  | nil => cases hpart
  | cons first rest ih =>
    by_cases hrest : rest = []
    · rw [hrest, List.mem_singleton] at hpart
      rw [hrest, String.intercalate_singleton, ← hpart]
      exact h
    · rw [String.intercalate_cons_of_ne_nil hrest]
      obtain rfl | hpart := List.mem_cons.1 hpart
      · exact h.append_newline hreturn _
      · exact (ih hpart).append_left _

/-- A line behind a margin is again one line. -/
theorem behind {margin : String} (hne : margin ≠ "") (hmargin : '\n' ∉ margin.toList)
    (hline : part ∈ lines text) (h : line.toList <:+ part.toList) :
    EndsLine (margin ++ part) line := by
  rw [endsLine_iff, String.toList_append]
  have hwhole : '\n' ∉ margin.toList ++ part.toList :=
    List.not_mem_append hmargin (newline_not_mem_of_mem_lines hline)
  rw [closedLines_of_not_mem (List.append_ne_nil_of_left_ne_nil (by simpa using hne) _) hwhole]
  refine ⟨_, List.mem_cons_self, ?_⟩
  rw [chomp_of_not_mem hwhole]
  exact List.suffix_append_of_suffix h

theorem indent (hreturn : '\r' ∉ line.toList) (h : EndsLine text line) :
    EndsLine (indent text) line := by
  obtain ⟨shown, hshown, hsuffix⟩ := h
  exact .intercalate hreturn (List.mem_map_of_mem hshown)
    (.behind (by decide) (by decide) hshown hsuffix)

/-- An empty first line would be no line without the margin in front of it. -/
theorem indentNext {margin : String} (hne : margin ≠ "") (hmargin : '\n' ∉ margin.toList)
    (hreturn : '\r' ∉ line.toList) (h : EndsLine text line) :
    EndsLine (margin ++ indentNext text) line := by
  obtain ⟨shown, hshown, hsuffix⟩ := h
  rw [Text.indentNext]
  split
  next hnil =>
    rw [hnil] at hshown
    cases hshown
  next first rest hlines =>
    rw [← String.intercalate_cons_append]
    rw [hlines] at hshown
    obtain rfl | hrest := List.mem_cons.1 hshown
    · exact .intercalate hreturn List.mem_cons_self
        (.behind hne hmargin (hlines ▸ List.mem_cons_self) hsuffix)
    · exact .intercalate hreturn (List.mem_cons_of_mem _ (List.mem_map_of_mem hrest))
        (.behind (by decide) (by decide) (hlines ▸ List.mem_cons_of_mem _ hrest) hsuffix)

end EndsLine

end Text

theorem Site.endsLine_report [DateFormat] (site : Site) {message line : String}
    (hreturn : '\r' ∉ line.toList) (h : Text.EndsLine message line) :
    Text.EndsLine (site.report message) line := by
  rw [Site.report]
  split
  · exact (h.indent hreturn).append_left _
  · have hlast : Text.EndsLine ("because: " ++ Text.indentNext message) line :=
      h.indentNext (by decide) (by decide) hreturn
    have hbreak (above : String) : above ++ "\nbecause: " = above ++ "\n" ++ "because: " := by
      rw [String.append_assoc]
      rfl
    rw [hbreak, String.append_assoc]
    exact hlast.append_left _

namespace Failure

section

variable [DateFormat] {f c node : Failure} {path : Path} {line : String}

theorem endsLine_message_of_cause (hreturn : '\r' ∉ line.toList) (hc : c ∈ f.causes)
    (h : Text.EndsLine c.render line) : Text.EndsLine f.message line := by
  cases f with
  | leaf site reason => exact absurd hc List.not_mem_nil
  | several site causes =>
    rw [message_several]
    exact .append_left _ (.intercalate hreturn (List.mem_map_of_mem hc) (h.indent hreturn))
  | noBranch site causes =>
    rw [message_noBranch]
    have hbullet : Text.EndsLine (bulleted c.render) line :=
      (h.indentNext (by decide) (by decide) hreturn).indent hreturn
    exact .append_left _ (.intercalate hreturn (List.mem_map_of_mem hc) hbullet)
  | rerooted site cause =>
    rw [message_rerooted, ← List.mem_singleton.1 hc]
    exact h

theorem NodeAt.endsLine_render (hnode : f.NodeAt path node) (hreturn : '\r' ∉ line.toList)
    (h : Text.EndsLine node.message line) : Text.EndsLine f.render line := by
  induction hnode with
  | root => exact f.site.endsLine_report hreturn h
  | cause _ hc ih =>
    exact ih (endsLine_message_of_cause hreturn hc (Site.endsLine_report _ hreturn h))

/-- Every line of the message of a leaf ends a line of the text of the whole failure, however deep
the leaf lies and whichever way the failures above it are laid out. -/
theorem leaf_lines_rendered (f leaf : Failure) (hleaf : leaf ∈ f.leaves)
    (hreturn : '\r' ∉ leaf.message.toList) :
    ∀ line ∈ Text.lines leaf.message,
      ∃ shown ∈ Text.lines f.render, line.toList <:+ shown.toList := by
  intro line hline
  obtain ⟨path, node, hnode, rfl⟩ := nodeAt_of_mem_leaves hleaf
  rw [message_withPath] at hline hreturn
  have hfree : '\r' ∉ line.toList := fun hmem => hreturn (Text.mem_of_mem_lines hline hmem)
  exact hnode.endsLine_render hfree ⟨line, hline, List.suffix_rfl⟩

end

attribute [local instance] DateFormat.epoch

/-- The leaf stands below a branch of a union, and a line of its message is empty. -/
theorem leaf_lines_rendered_bulleted :
    leaf ⟨[.key "a", .index 2], .null, .never⟩ (.stated "first\n\nthird")
        ∈ (noBranch ⟨[.key "a"], .null, .any⟩
          [leaf (.here .null .never) .isNull,
            leaf ⟨[.index 2], .null, .never⟩ (.stated "first\n\nthird")]).leaves
      ∧ '\r' ∉ "first\n\nthird".toList ∧ "third" ∈ Text.lines "first\n\nthird"
      ∧ ∃ shown ∈ Text.lines (noBranch ⟨[.key "a"], .null, .any⟩
          [leaf (.here .null .never) .isNull,
            leaf ⟨[.index 2], .null, .never⟩ (.stated "first\n\nthird")]).render,
        "third".toList <:+ shown.toList := by
  have hleaf : leaf ⟨[.key "a", .index 2], .null, .never⟩ (.stated "first\n\nthird")
      ∈ (noBranch ⟨[.key "a"], .null, .any⟩
        [leaf (.here .null .never) .isNull,
          leaf ⟨[.index 2], .null, .never⟩ (.stated "first\n\nthird")]).leaves :=
    .tail _ (.head _)
  have hreturn : '\r' ∉ "first\n\nthird".toList := by decide
  have hline : "third" ∈ Text.lines "first\n\nthird" := by decide
  exact ⟨hleaf, hreturn, hline, leaf_lines_rendered _ _ hleaf hreturn "third" hline⟩

end Failure

end ShapeCheck
