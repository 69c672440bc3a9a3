import ShapeCheck.Failure.Basic

/-!
# Reports of known keys

A record shape does not forbid unknown keys by itself, because it may be one side of an intersection
whose other side knows them. It reports the keys that it knows and whether others are forbidden, and
the outermost shape turns the report into a verdict or into a projection.
-/

namespace ShapeCheck

/-- What checking a value has learned about its keys. -/
structure KeyReport where
  /-- The keys that were recognised, possibly repeated. Without a list every key is allowed. -/
  known : Option (List String)
  /-- Whether keys that were not recognised are forbidden. -/
  exact : Bool
deriving DecidableEq, Repr

namespace KeyReport

/-- The report of a shape that does not constrain keys. -/
def untracked : KeyReport := ⟨none, false⟩

/-- The report of both sides of an intersection. Keys are known only if both sides know theirs, and
others are forbidden only if both sides forbid them. -/
def both (a b : KeyReport) : KeyReport where
  known :=
    match a.known, b.known with
    | some keys, some more => some (keys ++ more)
    | _, _ => none
  exact := a.exact && b.exact

/-- The entries of a value that a report forbids. -/
def forbidden (report : KeyReport) (v : Value) : List (String × Value) :=
  match report.exact, report.known, v.record? with
  | true, some known, some entries => entries.filter fun entry => !known.contains entry.1
  | _, _, _ => []

/-- The failure of an entry that should not be there. -/
def unknownKey (entry : String × Value) : Failure :=
  .leaf ⟨[.key entry.1], entry.2, .never⟩ (.unknownKey entry.1)

/-- Refuses a value with forbidden entries, all of them at once. -/
def enforce (report : KeyReport) (expected : Shape) (v : Value) : Except Failure Unit :=
  match report.forbidden v with
  | [] => .ok ()
  | entry :: entries =>
    .error (.combine (.here v expected) ((entry :: entries).map unknownKey))

/-- The entries under the given keys, each once, in the order in which the keys first come. -/
def select (entries : List (String × Value)) (keys : List String) : List (String × Value) :=
  keys.eraseDups.filterMap fun key => (Entries.get? entries key).map fun v => (key, v)

/-- The part of a value that a report knows: a plain object with the known entries of a record, and
any other value, or a record of which no keys are known, as it is. -/
def project (report : KeyReport) (v : Value) : Value :=
  match report.known, v.record? with
  | some known, some entries => .object (select entries known)
  | _, _ => v

@[simp] theorem enforce_untracked (expected : Shape) (v : Value) :
    untracked.enforce expected v = .ok () := rfl

@[simp] theorem project_untracked (v : Value) : untracked.project v = v := rfl

theorem get?_select (entries : List (String × Value)) (keys : List String) (key : String) :
    Entries.get? (select entries keys) key
      = if key ∈ keys then Entries.get? entries key else none := by
  have hselected (names : List String) :
      Entries.get? (names.filterMap fun name => (Entries.get? entries name).map fun v => (name, v))
        key = if key ∈ names then Entries.get? entries key else none := by
    induction names with
    | nil => rfl
    | cons name names ih =>
      by_cases hname : name = key
      · subst hname
        cases hget : Entries.get? entries name <;> simp [hget, Entries.get?, ih]
      · cases hget : Entries.get? entries name <;>
          simp [hget, Entries.get?, hname, Ne.symm hname, ih]
  rw [select, hselected]
  simp only [List.mem_eraseDups]

theorem mem_select_iff {entries : List (String × Value)} {keys : List String}
    {entry : String × Value} :
    entry ∈ select entries keys ↔
      entry.1 ∈ keys ∧ Entries.get? entries entry.1 = some entry.2 := by
  obtain ⟨key, v⟩ := entry
  simp only [select, List.mem_filterMap, List.mem_eraseDups, Option.map_eq_some_iff,
    Prod.mk.injEq]
  constructor
  · rintro ⟨_, hkey, _, hget, rfl, rfl⟩
    exact ⟨hkey, hget⟩
  · rintro ⟨hkey, hget⟩
    exact ⟨key, hkey, v, hget, rfl, rfl⟩

theorem enforce_eq_ok_iff {report : KeyReport} {expected : Shape} {v : Value} :
    report.enforce expected v = .ok () ↔ report.forbidden v = [] := by
  unfold enforce
  split <;> simp_all

theorem forbidden_of_record?_eq_none {report : KeyReport} {v : Value} (h : v.record? = none) :
    report.forbidden v = [] := by
  simp [forbidden, h]

theorem forbidden_of_not_exact {report : KeyReport} {v : Value} (h : report.exact = false) :
    report.forbidden v = [] := by
  simp [forbidden, h]

end KeyReport

end ShapeCheck
