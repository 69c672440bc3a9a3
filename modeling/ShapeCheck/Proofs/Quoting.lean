import Mathlib.Data.List.TakeWhile
import ShapeCheck.Text.Quoted

/-!
# Quoted texts can be told apart

Inside quotes every character is written either as itself or behind a backslash, and what stands
behind the backslash says how far the escape goes. So no escape begins like another one, none of
them begins with a quote, and the first quote that no backslash stands before ends the text: from
a quoted text and anything behind it, both can be read off again.
-/

namespace ShapeCheck.Text

/-- What stands in front of two rests is the same if all of it satisfies a test that neither rest
begins with. -/
theorem append_inj_of_all {p : Char → Bool} {run other x y : List Char}
    (hrun : ∀ c ∈ run, p c = true) (hother : ∀ c ∈ other, p c = true)
    (hx : ∀ c ∈ x.head?, p c = false) (hy : ∀ c ∈ y.head?, p c = false)
    (h : run ++ x = other ++ y) : run = other ∧ x = y := by
  have htake {front rest : List Char} (hfront : ∀ c ∈ front, p c = true)
      (hrest : ∀ c ∈ rest.head?, p c = false) : (front ++ rest).takeWhile p = front := by
    rw [List.takeWhile_append_of_pos hfront]
    cases rest with
    | nil => exact List.append_nil front
    | cons c rest => rw [List.takeWhile_cons_of_neg (by simp [hrest c rfl]), List.append_nil]
  have heq : run = other := by rw [← htake hrun hx, h, htake hother hy]
  exact ⟨heq, List.append_cancel_left (heq ▸ h)⟩

/-- The first of a separating character tells where a text ends. -/
theorem append_inj_of_not_mem {c : Char} {run other x y : List Char} (hrun : c ∉ run)
    (hother : c ∉ other) (h : run ++ c :: x = other ++ c :: y) : run = other ∧ x = y := by
  have hne {front : List Char} (hfront : c ∉ front) : ∀ d ∈ front, (d != c) = true := by
    intro d hd
    exact bne_iff_ne.2 fun heq => hfront (heq ▸ hd)
  obtain ⟨heq, hrest⟩ := append_inj_of_all (p := (· != c)) (hne hrun) (hne hother)
    (by simp) (by simp) h
  exact ⟨heq, List.tail_eq_of_cons_eq hrest⟩

theorem digitChar_injective : ∀ m < 16, ∀ n < 16, m.digitChar = n.digitChar → m = n := by
  decide

section Digits

variable {b : Nat} (hb : 1 < b)
include hb

theorem exists_digit_of_mem_toDigits {n : Nat} {c : Char} (h : c ∈ Nat.toDigits b n) :
    ∃ d < b, c = d.digitChar := by
  induction n using Nat.strongRecOn with
  | ind n ih =>
    rw [Nat.toDigits_eq_if hb] at h
    split at h
    next hn => exact ⟨n, hn, List.mem_singleton.1 h⟩
    next hn =>
      obtain hfront | hlast := List.mem_append.1 h
      · exact ih (n / b) (Nat.div_lt_self (by omega) hb) hfront
      · exact ⟨n % b, Nat.mod_lt n (by omega), List.mem_singleton.1 hlast⟩

/-- Digits determine their number. -/
theorem toDigits_injective (hb16 : b ≤ 16) : Function.Injective (Nat.toDigits b) := by
  intro m
  induction m using Nat.strongRecOn with
  | ind m ih =>
    intro n h
    have hlong (k : Nat) (c d : Char) : Nat.toDigits b k ++ [c] ≠ [d] := by
      intro h
      exact Nat.toDigits_ne_nil (List.append_eq_singleton_iff.1 h |>.resolve_right (by simp)).1
    rw [Nat.toDigits_eq_if hb, Nat.toDigits_eq_if (n := n) hb] at h
    split at h <;> split at h
    · exact digitChar_injective m (by omega) n (by omega) (List.head_eq_of_cons_eq h)
    · exact absurd h.symm (hlong _ _ _)
    · exact absurd h (hlong _ _ _)
    · obtain ⟨hfront, hdigit⟩ := List.append_inj' h rfl
      have hdiv := ih (m / b) (Nat.div_lt_self (by omega) hb) hfront
      have hm := Nat.mod_lt m (y := b) (by omega)
      have hn := Nat.mod_lt n (y := b) (by omega)
      have hmod := digitChar_injective (m % b) (by omega) (n % b) (by omega)
        (List.head_eq_of_cons_eq hdigit)
      rw [← Nat.div_add_mod m b, ← Nat.div_add_mod n b, hdiv, hmod]

end Digits

theorem brace_not_mem_toDigits (n : Nat) : '\x7d' ∉ Nat.toDigits 16 n := by
  intro h
  obtain ⟨d, hd, heq⟩ := exists_digit_of_mem_toDigits (by decide) h
  exact absurd heq ((by decide : ∀ d < 16, '\x7d' ≠ d.digitChar) d hd)

/-- The characters with an escape of two characters, each with the second of them. -/
def shortEscapes : List (Char × Char) :=
  [('"', '"'), ('\\', '\\'), ('\n', 'n'), ('\r', 'r'), ('\t', 't'), ('\x00', '0')]

/-- The three ways in which a character is written inside quotes. -/
inductive Escaped (c : Char) : List Char → Prop where
  | plain (hquote : c ≠ '"') (hbackslash : c ≠ '\\') : Escaped c [c]
  | short {mark : Char} (h : (c, mark) ∈ shortEscapes) : Escaped c ['\\', mark]
  | codePoint : Escaped c ('\\' :: 'u' :: '\x7b' :: (Nat.toDigits 16 c.toNat ++ ['\x7d']))

theorem escaped_escapeChar (c : Char) : Escaped c (escapeChar c).toList := by
  fun_cases escapeChar c with
  | case7 c hquote hbackslash =>
    rw [Char.toString, String.toList_singleton]
    exact .plain hquote hbackslash
  | case8 =>
    rw [codePointEscape]
    simp only [String.toList_append, String.toList_ofList]
    exact .codePoint
  | _ => exact .short (by decide)

namespace Escaped

variable {c d : Char} {a b x y : List Char}

theorem marks_injective : ∀ e ∈ shortEscapes, ∀ e' ∈ shortEscapes, e.2 = e'.2 → e.1 = e'.1 := by
  decide

theorem mark_ne : ∀ e ∈ shortEscapes, e.2 ≠ 'u' := by
  decide

/-- No escape begins like another one. -/
theorem append_inj (hc : Escaped c a) (hd : Escaped d b) (h : a ++ x = b ++ y) :
    c = d ∧ x = y := by
  cases hc with
  | plain _ hbackslash =>
    cases hd with
    | plain => exact List.cons.inj h
    | short | codePoint => exact absurd (List.head_eq_of_cons_eq h) hbackslash
  | short hmark =>
    cases hd with
    | plain _ hbackslash => exact absurd (List.head_eq_of_cons_eq h).symm hbackslash
    | short hmark' =>
      obtain ⟨heq, hrest⟩ := List.cons.inj (List.tail_eq_of_cons_eq h)
      exact ⟨marks_injective _ hmark _ hmark' heq, hrest⟩
    | codePoint =>
      exact absurd (List.head_eq_of_cons_eq (List.tail_eq_of_cons_eq h)) (mark_ne _ hmark)
  | codePoint =>
    cases hd with
    | plain _ hbackslash => exact absurd (List.head_eq_of_cons_eq h).symm hbackslash
    | short hmark =>
      exact absurd (List.head_eq_of_cons_eq (List.tail_eq_of_cons_eq h)).symm (mark_ne _ hmark)
    | codePoint =>
      simp only [List.cons_append, List.append_assoc, List.nil_append, List.cons.injEq,
        true_and] at h
      obtain ⟨hdigits, hrest⟩ := append_inj_of_not_mem (brace_not_mem_toDigits _)
        (brace_not_mem_toDigits _) h
      exact ⟨Char.toNat_inj.1 (toDigits_injective (by decide) (by decide) hdigits), hrest⟩

/-- No escape begins with the character that ends the text. -/
theorem append_ne_quote (hc : Escaped c a) : a ++ x ≠ '"' :: y := by
  intro h
  cases hc with
  | plain hquote => exact hquote (List.head_eq_of_cons_eq h)
  | short | codePoint => exact absurd (List.head_eq_of_cons_eq h) (by decide)

end Escaped

theorem escapes_append_inj {text other x y : List Char}
    (h : text.flatMap (fun c => (escapeChar c).toList) ++ '"' :: x
      = other.flatMap (fun c => (escapeChar c).toList) ++ '"' :: y) : text = other ∧ x = y := by
  induction text generalizing other with
  | nil =>
    cases other with
    | nil => exact ⟨rfl, List.tail_eq_of_cons_eq h⟩
    | cons d other =>
      rw [List.flatMap_cons, List.append_assoc] at h
      exact absurd h.symm (escaped_escapeChar d).append_ne_quote
  | cons c text ih =>
    rw [List.flatMap_cons, List.append_assoc] at h
    cases other with
    | nil => exact absurd h (escaped_escapeChar c).append_ne_quote
    | cons d other =>
      rw [List.flatMap_cons, List.append_assoc] at h
      obtain ⟨rfl, hrest⟩ := (escaped_escapeChar c).append_inj (escaped_escapeChar d) h
      obtain ⟨rfl, hxy⟩ := ih hrest
      exact ⟨rfl, hxy⟩

theorem toList_quote (text : String) :
    (quote text).toList
      = '"' :: (text.toList.flatMap (fun c => (escapeChar c).toList) ++ ['"']) := by
  rw [quote, String.toList_append, String.toList_append, String.toList_join, List.flatMap_map]
  rfl

/-- From a quoted text and what stands behind it, both can be read off. -/
theorem quote_append_inj {text other : String} {x y : List Char}
    (h : (quote text).toList ++ x = (quote other).toList ++ y) : text = other ∧ x = y := by
  simp only [toList_quote, List.cons_append, List.append_assoc, List.nil_append, List.cons.injEq,
    true_and] at h
  obtain ⟨htext, hxy⟩ := escapes_append_inj h
  exact ⟨String.toList_injective htext, hxy⟩

end ShapeCheck.Text
