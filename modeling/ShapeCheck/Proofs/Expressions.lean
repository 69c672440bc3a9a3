import Mathlib.Data.List.Forall2
import ShapeCheck.Proofs.Causes
import ShapeCheck.Proofs.Comments

/-!
# Shapes as they are written

An expression is what a caller writes to make a shape: leaves, containers and records, and the
combinators that put shapes together. The intersections and merged shapes that a combinator makes
are no part of an expression. An expression may hold comments anywhere, and one gets the same
answers about every value from it as from the expression that is written without them.
-/

namespace ShapeCheck

/-- How a shape is written. -/
inductive Expr where
  | leaf (l : Leaf)
  | literal (l : Literal)
  | tagged (tag : Tag)
  | instanceOf (cls : Class)
  | guarded (name : String) (test : Value → Bool)
  | validation (description : String) (test : Value → Verdict)
  | array (element : Expr)
  | map (key value : Expr)
  | set (element : Expr)
  | record (fields : List (String × Field Expr)) (exact : Bool)
  | dict (keyName : Option String) (value : Expr)
  | or (left right : Expr)
  | and (left right : Expr)
  | maybe (inner : Expr)
  | validate (inner : Expr) (description : String) (test : Value → Verdict)
  | matching (inner : Expr) (description : String) (test : String → Bool)
  | comment (inner : Expr) (text : String)

namespace Expr

mutual

/-- The shape that is made. -/
def build : Expr → Shape
  | leaf l => l.shape
  | literal l => .literal l
  | tagged tag => .tagged tag
  | instanceOf cls => .instanceOf cls
  | guarded name test => .guarded name test
  | validation description test => .validation description test
  | array element => .array element.build
  | map key value => .map key.build value.build
  | set element => .set element.build
  | record fields exact => .ofFields (buildFields fields) exact
  | dict keyName value => .dict ⟨keyName, value.build⟩
  | or left right => left.build.or right.build
  | and left right => left.build.and right.build
  | maybe inner => inner.build.maybe
  | validate inner description test => inner.build.validate description test
  | matching inner description test => inner.build.matching description test
  | comment inner text => inner.build.comment text
termination_by structural e => e

def buildFields : List (String × Field Expr) → List (String × Field Shape)
  | [] => []
  | (name, ⟨inner, presence⟩) :: rest => (name, ⟨inner.build, presence⟩) :: buildFields rest
termination_by structural fields => fields

end

mutual

/-- The expression with no comment written in it. -/
def plain : Expr → Expr
  | array element => array element.plain
  | map key value => map key.plain value.plain
  | set element => set element.plain
  | record fields exact => record (plainFields fields) exact
  | dict keyName value => dict keyName value.plain
  | or left right => or left.plain right.plain
  | and left right => and left.plain right.plain
  | maybe inner => maybe inner.plain
  | validate inner description test => validate inner.plain description test
  | matching inner description test => matching inner.plain description test
  | comment inner _ => inner.plain
  | e => e
termination_by structural e => e

def plainFields : List (String × Field Expr) → List (String × Field Expr)
  | [] => []
  | (name, ⟨inner, presence⟩) :: rest => (name, ⟨inner.plain, presence⟩) :: plainFields rest
termination_by structural fields => fields

end

mutual

/-- Without its comments, an expression makes the shape without its comments. -/
theorem build_plain : ∀ e : Expr, e.plain.build = e.build.uncommented
  | leaf l => by cases l <;> rfl
  | literal _ | tagged _ | instanceOf _ | guarded _ _ | validation _ _ => rfl
  | array element => congrArg Shape.array element.build_plain
  | map key value => congrArg₂ Shape.map key.build_plain value.build_plain
  | set element => congrArg Shape.set element.build_plain
  | record fields exact => by
    rw [plain, build, build, Shape.uncommented_ofFields, buildFields_plain]
  | dict keyName value => by
    rw [plain, build, build, Shape.uncommented_dict, build_plain value]
    rfl
  | or left right => congrArg₂ Shape.union left.build_plain right.build_plain
  | and left right => by
    rw [plain, build, build, Shape.uncommented_and, build_plain left, build_plain right]
  | maybe inner => congrArg (Shape.union · Leaf.null.shape) inner.build_plain
  | validate inner description test => by
    rw [plain, build, build, Shape.uncommented_validate, build_plain inner]
  | matching inner description test => by
    rw [plain, build, build, Shape.matching, Shape.matching, Shape.uncommented_validate,
      build_plain inner]
  | comment inner _ => inner.build_plain

theorem buildFields_plain : ∀ fields : List (String × Field Expr),
    buildFields (plainFields fields)
      = Entries.mapValues (Field.map Shape.uncommented) (buildFields fields)
  | [] => rfl
  | (name, ⟨inner, presence⟩) :: rest => by
    rw [plainFields, buildFields, buildFields, Entries.mapValues_cons, buildFields_plain rest,
      build_plain inner]
    rfl

end

theorem built_leaf (l : Leaf) : l.shape.Built := by
  cases l with
  | any => exact .any
  | never => exact .never
  | null => exact .literal .null
  | object => exact .instanceOf .object
  | _ => exact .tagged _

mutual

theorem built_build : ∀ e : Expr, e.build.Built
  | leaf l => built_leaf l
  | literal l => .literal l
  | tagged tag => .tagged tag
  | instanceOf cls => .instanceOf cls
  | guarded name test => .guarded name test
  | validation description test => .validation description test
  | array element => .array element.built_build
  | map key value => .map key.built_build value.built_build
  | set element => .set element.built_build
  | record fields exact => .fields exact (built_buildFields fields)
  | dict keyName value => .dict keyName value.built_build
  | or left right => .or left.built_build right.built_build
  | and left right => .and left.built_build right.built_build
  | maybe inner => .or inner.built_build (.literal .null)
  | validate inner description test => .and inner.built_build (.validation description test)
  | matching inner description test =>
    .and inner.built_build (.validation description fun v => .ofBool (v.string?.any test))
  | comment inner text => .comment text inner.built_build

theorem built_buildFields : ∀ fields : List (String × Field Expr),
    ∀ field ∈ buildFields fields, field.2.shape.Built
  | [] => List.forall_mem_nil _
  | (_, ⟨inner, _⟩) :: rest => List.forall_mem_cons.2 ⟨inner.built_build, built_buildFields rest⟩

end

theorem exists_buildFields_eq {fields : List (String × Field Shape)}
    (h : ∀ field ∈ fields, ∃ e : Expr, e.build = field.2.shape) :
    ∃ written, buildFields written = fields := by
  induction fields with
  | nil => exact ⟨[], rfl⟩
  | cons field rest ih =>
    obtain ⟨name, ⟨shape, presence⟩⟩ := field
    obtain ⟨e, rfl⟩ := h _ List.mem_cons_self
    obtain ⟨written, rfl⟩ := ih fun field hfield => h field (List.mem_cons_of_mem _ hfield)
    exact ⟨(name, ⟨e, presence⟩) :: written, rfl⟩

/-- The shapes that callers can make are those that can be written. -/
theorem exists_build_eq_iff {s : Shape} : (∃ e : Expr, e.build = s) ↔ s.Built := by
  constructor
  · rintro ⟨e, rfl⟩
    exact e.built_build
  · intro h
    induction h with
    | any => exact ⟨leaf .any, rfl⟩
    | never => exact ⟨leaf .never, rfl⟩
    | literal l => exact ⟨literal l, rfl⟩
    | tagged tag => exact ⟨tagged tag, rfl⟩
    | instanceOf cls => exact ⟨instanceOf cls, rfl⟩
    | guarded name test => exact ⟨guarded name test, rfl⟩
    | validation description test => exact ⟨validation description test, rfl⟩
    | array _ ih =>
      obtain ⟨e, rfl⟩ := ih
      exact ⟨array e, rfl⟩
    | map _ _ ihk ihv =>
      obtain ⟨key, rfl⟩ := ihk
      obtain ⟨value, rfl⟩ := ihv
      exact ⟨map key value, rfl⟩
    | set _ ih =>
      obtain ⟨e, rfl⟩ := ih
      exact ⟨set e, rfl⟩
    | fields exact _ ih =>
      obtain ⟨written, rfl⟩ := exists_buildFields_eq ih
      exact ⟨record written exact, rfl⟩
    | dict keyName _ ih =>
      obtain ⟨e, rfl⟩ := ih
      exact ⟨dict keyName e, rfl⟩
    | or _ _ iha ihb =>
      obtain ⟨a, rfl⟩ := iha
      obtain ⟨b, rfl⟩ := ihb
      exact ⟨or a b, rfl⟩
    | and _ _ iha ihb =>
      obtain ⟨a, rfl⟩ := iha
      obtain ⟨b, rfl⟩ := ihb
      exact ⟨and a b, rfl⟩
    | comment text _ ih =>
      obtain ⟨e, rfl⟩ := ih
      exact ⟨comment e text, rfl⟩

end Expr

variable [DateFormat]

/-- Two failures with the same tree: the same paths and values, the same number of causes in the
same order everywhere, and the same messages where there are no causes. -/
inductive Failure.SameTree : Failure → Failure → Prop where
  | node {f g : Failure} (path : f.path = g.path) (value : f.value = g.value)
      (causes : List.Forall₂ SameTree f.causes g.causes)
      (message : f.causes = [] → f.message = g.message) : SameTree f g

/-- What is expected is no part of the tree. -/
theorem Failure.sameTree_mapExpected (g : Shape → Shape) (f : Failure) :
    f.SameTree (f.mapExpected g) := by
  induction f using induction_on_causes with
  | step f ih =>
    refine .node (f.path_mapExpected g).symm (f.value_mapExpected g).symm ?_ ?_
    · rw [causes_mapExpected, List.forall₂_map_right_iff, List.forall₂_same]
      exact ih
    · intro hcauses
      cases f with
      | leaf site reason => rfl
      | several site causes | noBranch site causes =>
        cases hcauses
        rfl
      | rerooted site cause => cases hcauses

/-- Two answers with the same result, or with failures that have the same tree. -/
inductive SameAnswer {α : Type} : Except Failure α → Except Failure α → Prop where
  | ok (result : α) : SameAnswer (.ok result) (.ok result)
  | error {f g : Failure} (h : f.SameTree g) : SameAnswer (.error f) (.error g)

theorem SameAnswer.mapError {α : Type} (g : Shape → Shape) (answer : Except Failure α) :
    SameAnswer answer (answer.mapError (Failure.mapExpected g)) := by
  cases answer with
  | ok result => exact .ok result
  | error f => exact .error (f.sameTree_mapExpected g)

/-- Comments change no answer about a value: neither the report of its keys, nor whether it is
accepted, nor what is kept of it, nor the tree of a failure. -/
theorem Expr.comments_transparent (e : Expr) (v : Value) :
    SameAnswer (e.build.track v) (e.plain.build.track v)
      ∧ SameAnswer (e.build.check v) (e.plain.build.check v)
      ∧ SameAnswer (e.build.slice v) (e.plain.build.slice v) := by
  rw [build_plain, Shape.track_uncommented, Shape.check_uncommented, Shape.slice_uncommented]
  exact ⟨.mapError _ _, .mapError _ _, .mapError _ _⟩

end ShapeCheck
