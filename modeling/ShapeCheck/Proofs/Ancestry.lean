import Mathlib.Data.List.Nodup
import ShapeCheck.Check

/-!
# Classes and their ancestors

A class stands at the head of the chain of its parents, and belongs to another class if that one is
on the chain. As the chain of an ancestor is the rest of the chain, belonging is an order. Classes
are compared as a whole, names and parents included, while a declaration is told from others by its
serial number alone. Among classes from one supply this makes no difference: every declaration comes
with a new number and under a parent that is there already, so that numbers are not repeated,
neither among the classes nor on the chain of one of them.
-/

namespace ShapeCheck

namespace Class

/-- What tells classes apart. -/
inductive Identity where
  | object
  | builtin (kind : Builtin)
  | declared (serial : Nat)
deriving DecidableEq, Repr

def identity : Class → Identity
  | object => .object
  | builtin kind => .builtin kind
  | declared serial _ _ => .declared serial

/-- The classes that are there before any declaration. -/
def predeclared : List Class :=
  [object, builtin .array, builtin .map, builtin .set, builtin .date, builtin .function]

/-- A class and its parents, up to the root. -/
def chain : Class → List Class
  | object => [object]
  | builtin kind => [builtin kind, object]
  | declared serial name parent => declared serial name parent :: parent.chain

/-- A class with other names for the declarations on its chain. -/
def renamed (rename : Nat → String → String) : Class → Class
  | object => object
  | builtin kind => builtin kind
  | declared serial name parent => declared serial (rename serial name) (parent.renamed rename)

variable {a b c : Class}

theorem head?_chain (c : Class) : c.chain.head? = some c := by
  cases c <;> rfl

/-- Every chain ends at the root. -/
theorem getLast?_chain (c : Class) : c.chain.getLast? = some object := by
  induction c with
  | object => rfl
  | builtin kind => rfl
  | declared serial name parent ih => rw [chain, List.getLast?_cons, ih, Option.getD_some]

theorem mem_chain_self (c : Class) : c ∈ c.chain := List.mem_of_head? c.head?_chain

theorem isA_iff_mem_chain : a.isA b = true ↔ b ∈ a.chain := by
  induction a with
  | object => rw [isA, decide_eq_true_eq, chain, List.mem_singleton, eq_comm]
  | builtin kind =>
    rw [isA, Bool.or_eq_true, decide_eq_true_eq, decide_eq_true_eq, chain, List.mem_cons,
      List.mem_singleton, eq_comm, eq_comm (a := object)]
  | declared serial name parent ih =>
    rw [isA, Bool.or_eq_true, decide_eq_true_eq, ih, chain, List.mem_cons, eq_comm]

theorem chain_suffix_of_mem (h : b ∈ a.chain) : b.chain <:+ a.chain := by
  induction a with
  | object =>
    obtain rfl := List.mem_singleton.1 h
    exact List.suffix_refl _
  | builtin kind =>
    obtain rfl | h := List.mem_cons.1 h
    · exact List.suffix_refl _
    · rw [List.mem_singleton.1 h]
      exact List.suffix_cons _ _
  | declared serial name parent ih =>
    obtain rfl | h := List.mem_cons.1 h
    · exact List.suffix_refl _
    · exact (ih h).trans (List.suffix_cons _ _)

/-- Belonging to a class compares chains, and is an order because being a rest is one. -/
theorem isA_iff_chain_suffix : a.isA b = true ↔ b.chain <:+ a.chain := by
  rw [isA_iff_mem_chain]
  exact ⟨chain_suffix_of_mem, fun h => h.subset b.mem_chain_self⟩

theorem isA_trans (hab : a.isA b = true) (hbc : b.isA c = true) : a.isA c = true := by
  rw [isA_iff_chain_suffix] at *
  exact hbc.trans hab

theorem isA_antisymm (hab : a.isA b = true) (hba : b.isA a = true) : a = b := by
  rw [isA_iff_chain_suffix] at *
  have hchain : b.chain = a.chain := hab.eq_of_length_le hba.length_le
  have hhead : some b = some a := by rw [← head?_chain, ← head?_chain, hchain]
  exact (Option.some.inj hhead).symm

@[simp] theorem identity_renamed (rename : Nat → String → String) (c : Class) :
    (c.renamed rename).identity = c.identity := by
  cases c <;> rfl

theorem chain_renamed (rename : Nat → String → String) (c : Class) :
    (c.renamed rename).chain = c.chain.map (renamed rename) := by
  induction c with
  | object => rfl
  | builtin kind => rfl
  | declared serial name parent ih => rw [renamed, chain, ih, chain, List.map_cons, renamed]

end Class

open ShapeCheck.Class

/-- The classes that a supply has to offer after some declarations, each below the root or below a
class that was there before. -/
inductive ClassSupply.Offers : ClassSupply → List Class → Prop where
  | start : Offers .start predeclared
  | declare {supply : ClassSupply} {classes : List Class} {parent : Class}
      (h : Offers supply classes) (name : String) (hparent : parent ∈ classes) :
      Offers (supply.declare name parent).2 ((supply.declare name parent).1 :: classes)

/-- What stays true of the classes of a supply. -/
structure Hierarchy (supply : ClassSupply) (classes : List Class) : Prop where
  /-- With a class there are all its ancestors. -/
  closed : ∀ c ∈ classes, ∀ a ∈ c.chain, a ∈ classes
  /-- The next serial number is new. -/
  below : ∀ c ∈ classes, ∀ serial, c.identity = .declared serial → serial < supply.next
  distinct : (classes.map identity).Nodup
  /-- No class is on the chain of its own parent. -/
  acyclic : ∀ c ∈ classes, (c.chain.map identity).Nodup

namespace Hierarchy

variable {supply : ClassSupply} {classes : List Class} {a b c parent : Class}

theorem start : Hierarchy .start predeclared where
  closed := by decide
  below := by
    intro c hc serial hserial
    simp only [predeclared, List.mem_cons, List.not_mem_nil, or_false] at hc
    rcases hc with rfl | rfl | rfl | rfl | rfl | rfl <;> cases hserial
  distinct := by decide
  acyclic := by decide

theorem not_mem_identities (h : Hierarchy supply classes) :
    .declared supply.next ∉ classes.map identity := by
  intro hmem
  obtain ⟨c, hc, hidentity⟩ := List.mem_map.1 hmem
  exact Nat.lt_irrefl _ (h.below c hc _ hidentity)

/-- One more declaration keeps everything: its number is new, and its chain is that of its parent
behind it. -/
theorem declare (h : Hierarchy supply classes) (name : String) (hparent : parent ∈ classes) :
    Hierarchy (supply.declare name parent).2 ((supply.declare name parent).1 :: classes) where
  closed := by
    intro c hc a ha
    obtain rfl | hc := List.mem_cons.1 hc
    · obtain rfl | ha := List.mem_cons.1 ha
      · exact List.mem_cons_self
      · exact List.mem_cons_of_mem _ (h.closed parent hparent a ha)
    · exact List.mem_cons_of_mem _ (h.closed c hc a ha)
  below := by
    intro c hc serial hserial
    show serial < supply.next + 1
    obtain rfl | hc := List.mem_cons.1 hc
    · cases hserial
      exact Nat.lt_succ_self _
    · exact Nat.lt_succ_of_lt (h.below c hc serial hserial)
  distinct := List.nodup_cons.2 ⟨h.not_mem_identities, h.distinct⟩
  acyclic := by
    intro c hc
    obtain rfl | hc := List.mem_cons.1 hc
    · have hchain : parent.chain.map identity ⊆ classes.map identity :=
        List.map_subset _ (h.closed parent hparent)
      exact List.nodup_cons.2
        ⟨fun hmem => h.not_mem_identities (hchain hmem), h.acyclic parent hparent⟩
    · exact h.acyclic c hc

/-- Classes with one identity are one class. -/
theorem eq_iff_identity_eq (h : Hierarchy supply classes) (ha : a ∈ classes) (hb : b ∈ classes) :
    a = b ↔ a.identity = b.identity :=
  ⟨congrArg identity, List.inj_on_of_nodup_map h.distinct ha hb⟩

/-- Whether a class belongs to another one shows in the identities on its chain. -/
theorem isA_iff_identity_mem (h : Hierarchy supply classes) (ha : a ∈ classes) (hb : b ∈ classes) :
    a.isA b = true ↔ b.identity ∈ a.chain.map identity := by
  rw [isA_iff_mem_chain]
  constructor
  · exact List.mem_map_of_mem
  · intro hmem
    obtain ⟨c, hc, hidentity⟩ := List.mem_map.1 hmem
    rwa [← (h.eq_iff_identity_eq (h.closed a ha c hc) hb).2 hidentity]

end Hierarchy

namespace ClassSupply.Offers

variable {supply : ClassSupply} {classes : List Class}

theorem hierarchy (h : Offers supply classes) : Hierarchy supply classes := by
  induction h with
  | start => exact .start
  | declare _ name hparent ih => exact ih.declare name hparent

/-- The same declarations under other names. -/
theorem renamed (h : Offers supply classes) (rename : Nat → String → String) :
    Offers supply (classes.map (Class.renamed rename)) := by
  induction h with
  | start => exact .start
  | @declare supply _ _ _ name hparent ih =>
    exact ih.declare (rename supply.next name) (List.mem_map_of_mem hparent)

/-- Names play no part in whether a class belongs to another one. -/
theorem isA_renamed {a b : Class} (h : Offers supply classes) (ha : a ∈ classes) (hb : b ∈ classes)
    (rename : Nat → String → String) :
    (a.renamed rename).isA (b.renamed rename) = a.isA b := by
  have hidentities : (a.renamed rename).chain.map identity = a.chain.map identity := by
    rw [chain_renamed, List.map_map]
    exact List.map_congr_left fun c _ => identity_renamed rename c
  rw [Bool.eq_iff_iff, h.hierarchy.isA_iff_identity_mem ha hb,
    (h.renamed rename).hierarchy.isA_iff_identity_mem (List.mem_map_of_mem ha)
      (List.mem_map_of_mem hb), hidentities, identity_renamed]

end ClassSupply.Offers

namespace Shape

variable {c d : Class} {v : Value}

theorem accepts_instanceOf_iff :
    (instanceOf c).accepts v = true ↔ ∃ d, v.class? = some d ∧ d.isA c = true := by
  rw [accepts_iff]
  show require (v.class?.any fun d => d.isA c) _ _ _ = .ok () ↔ _
  cases hclass : v.class? with
  | none => simp [require, refuse]
  | some d => by_cases hd : d.isA c = true <;> simp [require, refuse, hd]

theorem accepts_instanceOf_of_isA (hcd : c.isA d = true) (h : (instanceOf c).accepts v = true) :
    (instanceOf d).accepts v = true := by
  rw [accepts_instanceOf_iff] at h ⊢
  obtain ⟨e, he, hec⟩ := h
  exact ⟨e, he, isA_trans hec hcd⟩

/-- Whatever belongs to a class belongs to the root. -/
theorem accepts_instanceOf_object_iff :
    (instanceOf .object).accepts v = true ↔
      (∃ slots, v = .array slots) ∨ (∃ entries, v = .object entries)
        ∨ (∃ entries, v = .map entries) ∨ (∃ items, v = .set items)
        ∨ (∃ instant, v = .date instant) ∨ (∃ name, v = .function name)
        ∨ ∃ cls entries, v = .instance cls entries := by
  rw [accepts_instanceOf_iff]
  cases v <;> simp [Value.class?]

end Shape

/-- The classes of a supply are ordered by belonging, with the root on top. Two classes that belong
to each other are one declaration, whatever they are called, and the values of a class are values of
all classes that it belongs to. -/
theorem belonging_orders_classes {supply : ClassSupply} {classes : List Class}
    (h : supply.Offers classes) :
    (∀ a ∈ classes, a.isA a = true ∧ a.isA .object = true)
      ∧ (∀ a ∈ classes, ∀ b ∈ classes, ∀ c ∈ classes,
          a.isA b = true → b.isA c = true → a.isA c = true)
      ∧ (∀ a ∈ classes, ∀ b ∈ classes, a.isA b = true → b.isA a = true → a = b)
      ∧ (∀ a ∈ classes, ∀ b ∈ classes, (a = b ↔ a.identity = b.identity))
      ∧ (∀ a ∈ classes, (a.chain.map identity).Nodup ∧ a.chain.getLast? = some .object)
      ∧ (∀ a ∈ classes, ∀ b ∈ classes, (a.isA b = true ↔ b.identity ∈ a.chain.map identity)
          ∧ ∀ rename, (a.renamed rename).isA (b.renamed rename) = a.isA b)
      ∧ (∀ c ∈ classes, ∀ d ∈ classes, c.isA d = true →
          ∀ v, (Shape.instanceOf c).accepts v = true → (Shape.instanceOf d).accepts v = true)
      ∧ ∀ v, (Shape.instanceOf .object).accepts v = true ↔
          (∃ slots, v = .array slots) ∨ (∃ entries, v = .object entries)
            ∨ (∃ entries, v = .map entries) ∨ (∃ items, v = .set items)
            ∨ (∃ instant, v = .date instant) ∨ (∃ name, v = .function name)
            ∨ ∃ cls entries, v = .instance cls entries := by
  have hclasses := h.hierarchy
  refine ⟨?_, ?_, ?_, ?_, ?_, ?_, ?_, ?_⟩
  · intro a _
    exact ⟨a.isA_self, a.isA_object⟩
  · intro a _ b _ c _
    exact isA_trans
  · intro a _ b _
    exact isA_antisymm
  · intro a ha b hb
    exact hclasses.eq_iff_identity_eq ha hb
  · intro a ha
    exact ⟨hclasses.acyclic a ha, a.getLast?_chain⟩
  · intro a ha b hb
    exact ⟨hclasses.isA_iff_identity_mem ha hb, h.isA_renamed ha hb⟩
  · intro c _ d _ hcd v
    exact Shape.accepts_instanceOf_of_isA hcd
  · intro v
    exact Shape.accepts_instanceOf_object_iff

/-- The second class has the name of the first one, which it is declared below. -/
theorem belonging_orders_classes_namesakes :
    ClassSupply.Offers ⟨2⟩ (.declared 1 "Point" (.declared 0 "Point" .object)
        :: .declared 0 "Point" .object :: predeclared)
      ∧ (Class.declared 0 "Point" .object).isA
          (.declared 1 "Point" (.declared 0 "Point" .object)) = false
      ∧ ∀ v,
        (Shape.instanceOf (.declared 1 "Point" (.declared 0 "Point" .object))).accepts v = true →
          (Shape.instanceOf (.declared 0 "Point" .object)).accepts v = true := by
  have hroot : Class.object ∈ predeclared := List.mem_cons_self
  have hfirst := ClassSupply.Offers.start.declare "Point" hroot
  have hoffers := hfirst.declare "Point" List.mem_cons_self
  obtain ⟨-, -, -, -, -, -, hvalues, -⟩ := belonging_orders_classes hoffers
  exact ⟨hoffers, rfl,
    hvalues _ List.mem_cons_self _ (List.mem_cons_of_mem _ List.mem_cons_self) rfl⟩

end ShapeCheck
