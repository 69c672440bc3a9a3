import ShapeCheck.Path
import ShapeCheck.Proofs.Quoting

/-!
# Paths can be read off their texts

Segments are written one after the other without anything between them. Each begins with a point or
an opening bracket, and neither of these goes on an identifier, nor does the parenthesis behind the
word that names positions. So a name that is written bare ends where its identifier characters end,
whatever word it is, a quoted one ends at its closing quote, and a number at the first character
that is no digit.
-/

namespace ShapeCheck

namespace Text

/-- Neither a point nor a bracket or parenthesis can be part of an identifier. -/
theorem continuesIdentifier_eq_false {c : Char} (h : c ∈ ['.', '[', '(']) :
    continuesIdentifier c = false := by
  have hnone : (['.', '[', '('].all fun c => !continuesIdentifier c) = true := by decide +kernel
  simpa using List.all_eq_true.1 hnone c h

theorem all_continuesIdentifier {name : String} (h : isIdentifier name = true) :
    ∀ c ∈ name.toList, continuesIdentifier c = true := by
  rw [isIdentifier] at h
  split at h
  · cases h
  next first rest hname =>
    obtain ⟨hfirst, hrest⟩ := Bool.and_eq_true_iff.1 h
    rw [hname]
    refine List.forall_mem_cons.2 ⟨?_, List.all_eq_true.1 hrest⟩
    rw [continuesIdentifier, hfirst, Bool.true_or]

theorem toList_toString (i : Nat) : (toString i).toList = Nat.toDigits 10 i := by
  rw [Nat.toString_eq_ofList_toDigits, String.toList_ofList]

/-- A number ends at a bracket. -/
theorem number_append_inj {i j : Nat} {x y : List Char}
    (h : (toString i).toList ++ ']' :: x = (toString j).toList ++ ']' :: y) : i = j ∧ x = y := by
  have hbracket (k : Nat) : ']' ∉ Nat.toDigits 10 k := by
    intro hmem
    obtain ⟨d, hd, heq⟩ := exists_digit_of_mem_toDigits (by decide) hmem
    exact absurd heq ((by decide : ∀ d < 10, ']' ≠ d.digitChar) d hd)
  rw [toList_toString, toList_toString] at h
  obtain ⟨hdigits, hrest⟩ := append_inj_of_not_mem (hbracket i) (hbracket j) h
  exact ⟨toDigits_injective (by decide) (by decide) hdigits, hrest⟩

/-- A number does not begin with a quote. -/
theorem number_append_ne_quote (i : Nat) (x y : List Char) :
    (toString i).toList ++ x ≠ '"' :: y := by
  rw [toList_toString]
  cases hdigits : Nat.toDigits 10 i with
  | nil => exact absurd hdigits Nat.toDigits_ne_nil
  | cons c digits =>
    have hc : c ∈ Nat.toDigits 10 i := hdigits ▸ List.mem_cons_self
    obtain ⟨d, hd, rfl⟩ := exists_digit_of_mem_toDigits (by decide) hc
    intro h
    exact absurd (List.head_eq_of_cons_eq h) ((by decide : ∀ d < 10, d.digitChar ≠ '"') d hd)

end Text

namespace Segment

/-- The word that positions are written with. It could be a bare name itself. -/
def positionWord : List Char := "keys".toList

/-- The ways in which segments are written, values under keys of maps left out. -/
inductive Written : Segment → List Char → Prop where
  | name {key : String} (h : Text.isIdentifier key = true) : Written (.key key) ('.' :: key.toList)
  | quoted (key : String) : Written (.key key) ('[' :: ((Text.quote key).toList ++ [']']))
  | index (i : Nat) : Written (.index i) ('[' :: ((toString i).toList ++ [']']))
  | nth (i : Nat) :
    Written (.nth i) ('.' :: (positionWord ++ '(' :: ')' :: '[' :: ((toString i).toList ++ [']'])))

theorem written_text [DateFormat] {s : Segment} (h : ∀ k, s ≠ .valueAt k) :
    s.Written s.text.toList := by
  cases s with
  | key key =>
    rw [text]
    split
    next hidentifier =>
      rw [String.toList_append]
      exact .name hidentifier
    next =>
      rw [String.toList_append, String.toList_append]
      exact .quoted key
  | index i =>
    rw [text, String.toList_append, String.toList_append]
    exact .index i
  | nth i =>
    rw [text, String.toList_append, String.toList_append]
    exact .nth i
  | valueAt k => exact absurd rfl (h k)

/-- Whether a text is empty or begins like a segment. -/
def Opens (text : List Char) : Prop := ∀ c ∈ text.head?, c = '.' ∨ c = '['

theorem Opens.not_continues {x : List Char} (h : Opens x) :
    ∀ c ∈ x.head?, Text.continuesIdentifier c = false := by
  intro c hc
  apply Text.continuesIdentifier_eq_false
  obtain rfl | rfl := h c hc <;> simp

theorem exists_toList_text_eq_cons [DateFormat] (s : Segment) :
    ∃ c rest, s.text.toList = c :: rest ∧ (c = '.' ∨ c = '[') := by
  cases s with
  | key key =>
    rw [text]
    split
    · exact ⟨'.', key.toList, String.toList_append, .inl rfl⟩
    · exact ⟨'[', (Text.quote key ++ "]").toList, by simp, .inr rfl⟩
  | index i => exact ⟨'[', (toString i ++ "]").toList, by simp [text], .inr rfl⟩
  | nth i => exact ⟨'.', ("keys()[" ++ toString i ++ "]").toList, by simp [text], .inl rfl⟩
  | valueAt k => exact ⟨'.', ("get(" ++ k.line ++ ")").toList, by simp [text], .inl rfl⟩

namespace Written

variable {s t : Segment} {a b x y : List Char}

/-- A parenthesis does not begin a segment, so no bare name is read in place of a position. -/
theorem name_ne_position {key : String} (h : Text.isIdentifier key = true) (hx : Opens x) :
    key.toList ++ x ≠ positionWord ++ '(' :: y := by
  intro heq
  have hword : ∀ c ∈ positionWord, Text.continuesIdentifier c = true :=
    Text.all_continuesIdentifier (by decide +kernel : Text.isIdentifier "keys" = true)
  have hparenthesis := Text.continuesIdentifier_eq_false (c := '(') (by simp)
  obtain ⟨-, rfl⟩ := Text.append_inj_of_all (Text.all_continuesIdentifier h) hword
    hx.not_continues (by simp [hparenthesis]) heq
  exact absurd (hx '(' rfl) (by decide)

/-- From the text of a segment and what follows it, both can be read off. -/
theorem append_inj (hs : s.Written a) (ht : t.Written b) (hx : Opens x) (hy : Opens y)
    (h : a ++ x = b ++ y) : s = t ∧ x = y := by
  cases hs <;> cases ht <;>
    simp only [List.cons_append, List.append_assoc, List.nil_append, List.cons.injEq, true_and] at h
  -- A point and a bracket tell two of the forms from the other two.
  case name.quoted | name.index | quoted.name | quoted.nth | index.name | index.nth | nth.quoted
    | nth.index => exact absurd h.1 (by decide)
  case name.name key hkey other hother =>
    obtain ⟨heq, hrest⟩ := Text.append_inj_of_all (Text.all_continuesIdentifier hkey)
      (Text.all_continuesIdentifier hother) hx.not_continues hy.not_continues h
    exact ⟨congrArg Segment.key (String.toList_injective heq), hrest⟩
  case name.nth hkey j => exact absurd h (name_ne_position hkey hx)
  case nth.name i other hother => exact absurd h.symm (name_ne_position hother hy)
  case quoted.quoted =>
    obtain ⟨rfl, hrest⟩ := Text.quote_append_inj h
    exact ⟨rfl, List.tail_eq_of_cons_eq hrest⟩
  case quoted.index =>
    rw [Text.toList_quote] at h
    exact absurd h.symm (Text.number_append_ne_quote _ _ _)
  case index.quoted =>
    rw [Text.toList_quote] at h
    exact absurd h (Text.number_append_ne_quote _ _ _)
  case index.index =>
    obtain ⟨rfl, hrest⟩ := Text.number_append_inj h
    exact ⟨rfl, hrest⟩
  case nth.nth =>
    have hnumbers := List.append_cancel_left h
    simp only [List.cons.injEq, true_and] at hnumbers
    obtain ⟨rfl, hrest⟩ := Text.number_append_inj hnumbers
    exact ⟨rfl, hrest⟩

end Written

end Segment

namespace Path

section

variable [DateFormat]

theorem toList_text (path : Path) : (text path).toList = path.flatMap (·.text.toList) := by
  rw [text, String.toList_join, List.flatMap_map]

theorem opens_flatMap_text (path : Path) : Segment.Opens (path.flatMap (·.text.toList)) := by
  cases path with
  | nil => exact nofun
  | cons s path =>
    obtain ⟨c, rest, htext, hc⟩ := s.exists_toList_text_eq_cons
    rw [List.flatMap_cons, htext]
    rintro d ⟨⟩
    exact hc

theorem flatMap_text_ne_nil (s : Segment) (path : Path) :
    (s :: path).flatMap (·.text.toList) ≠ [] := by
  obtain ⟨c, rest, htext, -⟩ := s.exists_toList_text_eq_cons
  rw [List.flatMap_cons, htext]
  exact List.cons_ne_nil _ _

/-- A text is the text of one path only, unless values under keys of maps are on the way. -/
theorem text_eq_text_iff {p q : Path} (hp : ∀ s ∈ p, ∀ k, s ≠ .valueAt k)
    (hq : ∀ s ∈ q, ∀ k, s ≠ .valueAt k) : text p = text q ↔ p = q := by
  refine ⟨fun h => ?_, congrArg text⟩
  replace h := congrArg String.toList h
  rw [toList_text, toList_text] at h
  induction p generalizing q with
  | nil =>
    cases q with
    | nil => rfl
    | cons t q => exact absurd h.symm (flatMap_text_ne_nil t q)
  | cons s p ih =>
    cases q with
    | nil => exact absurd h (flatMap_text_ne_nil s p)
    | cons t q =>
      obtain ⟨hs, hps⟩ := List.forall_mem_cons.1 hp
      obtain ⟨ht, hqs⟩ := List.forall_mem_cons.1 hq
      rw [List.flatMap_cons, List.flatMap_cons] at h
      obtain ⟨rfl, hrest⟩ := (Segment.written_text hs).append_inj (Segment.written_text ht)
        (opens_flatMap_text p) (opens_flatMap_text q) h
      rw [ih hps hqs hrest]

end

attribute [local instance] DateFormat.epoch

/-- A key that is the word for positions and a key with a point in it are no positions and no two
keys. -/
theorem text_eq_text_iff_keys :
    (∀ s ∈ [.key "keys", .index 0, .key "a.b"], ∀ k, s ≠ Segment.valueAt k)
      ∧ (∀ s ∈ [.nth 0, .key "a", .key "b"], ∀ k, s ≠ Segment.valueAt k)
      ∧ text [.key "keys", .index 0, .key "a.b"] ≠ text [.nth 0, .key "a", .key "b"] := by
  have hp : ∀ s ∈ [.key "keys", .index 0, .key "a.b"], ∀ k, s ≠ Segment.valueAt k := by simp
  have hq : ∀ s ∈ [.nth 0, .key "a", .key "b"], ∀ k, s ≠ Segment.valueAt k := by simp
  refine ⟨hp, hq, fun h => ?_⟩
  cases (text_eq_text_iff hp hq).1 h

end Path

end ShapeCheck
