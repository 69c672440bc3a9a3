import ShapeCheck.KeyReport
import ShapeCheck.Refusal
import ShapeCheck.Shape.Intersection

/-!
# Checking values against shapes

`Shape.judge` walks a shape and gives a report of known keys or a refusal. `track` closes the
refusal, and `settle` turns the report into a verdict on the keys of the value. The parts of a value
are always settled, so that exactness of a part is decided at the part.

Callers come in by `check` and `slice`, which choose by the kind of shape: the kinds that may know
keys are tracked, and then settled or projected, and the other kinds are checked as they are.

Arrays, maps, sets and dictionaries stop at their first bad part. Records and intersections go on,
and report everything that is wrong.
-/

namespace ShapeCheck

/-- Checks parts in order and stops at the first bad one, which is lifted by its segment. -/
def checkEach (check : Value → Except Failure Unit) : List (Segment × Value) → Except Failure Unit
  | [] => .ok ()
  | (segment, v) :: rest =>
    match check v with
    | .error failure => .error (failure.lift segment)
    | .ok () => checkEach check rest

/-- Checks the entries of a map from position `i` on, each key before its value. A bad key is named
by its position, a bad value by its key. -/
def checkPairs (checkKey checkValue : Value → Except Failure Unit) :
    Nat → List (Value × Value) → Except Failure Unit
  | _, [] => .ok ()
  | i, (k, v) :: rest =>
    match checkKey k with
    | .error failure => .error (failure.lift (.nth i))
    | .ok () =>
      match checkValue v with
      | .error failure => .error (failure.lift (.valueAt k))
      | .ok () => checkPairs checkKey checkValue (i + 1) rest

/-- The slots of an array that are no holes, with their indices, from index `i` on. -/
def presentSlots : Nat → List (Option Value) → List (Segment × Value)
  | _, [] => []
  | i, none :: rest => presentSlots (i + 1) rest
  | i, some v :: rest => (.index i, v) :: presentSlots (i + 1) rest

/-- The items of a set with their positions, from position `i` on. -/
def positions : Nat → List Value → List (Segment × Value)
  | _, [] => []
  | i, v :: rest => (.nth i, v) :: positions (i + 1) rest

/-- Refuses a value for one reason. -/
def refuse {α : Type} (expected : Shape) (v : Value) (reason : Reason) : Except Failure α :=
  .error (.leaf (.here v expected) reason)

/-- The entries of a value that has to be a record. -/
def recordEntries (expected : Shape) (v : Value) : Except Failure (List (String × Value)) :=
  match v.record? with
  | some entries => .ok entries
  | none =>
    match v with
    | .null => refuse expected v .isNull
    | .array _ => refuse expected v .isArray
    | _ => refuse expected v .notObject

/-- The answer of a check as a report without keys. -/
def untrackedIf : Except Failure Unit → Except Refusal KeyReport
  | .ok () => .ok .untracked
  | .error failure => .error (.closed failure)

/-- Closes a refusal, and turns a report into a verdict on the keys of the value. -/
def settle (s : Shape) (v : Value) : Except Refusal KeyReport → Except Failure Unit
  | .ok report => report.enforce s.bare v
  | .error refusal => .error refusal.failure

/-- A test as a check. -/
def require (passed : Bool) (expected : Shape) (v : Value) (reason : Reason) :
    Except Failure Unit :=
  if passed then .ok () else refuse expected v reason

/-- Checks the items of an array. Holes match everything. -/
def checkArray (expected : Shape) (checkElement : Value → Except Failure Unit) :
    Value → Except Failure Unit
  | .array slots => checkEach checkElement (presentSlots 0 slots)
  | v => refuse expected v .notArray

def checkMap (expected : Shape) (checkKey checkValue : Value → Except Failure Unit) :
    Value → Except Failure Unit
  | .map entries => checkPairs checkKey checkValue 0 entries
  | v => refuse expected v .notMap

def checkSet (expected : Shape) (checkElement : Value → Except Failure Unit) :
    Value → Except Failure Unit
  | .set items => checkEach checkElement (positions 0 items)
  | v => refuse expected v .notSet

/-- Checks the values of all entries of a record. -/
def checkValues (expected : Shape) (checkValue : Value → Except Failure Unit) (v : Value) :
    Except Failure Unit :=
  match recordEntries expected v with
  | .error failure => .error failure
  | .ok entries => checkEach checkValue (entries.map fun entry => (.key entry.1, entry.2))

namespace Shape

/-- The test of a shape that has no parts. A shape with parts has no test of its own. -/
def checkLeaf : Shape → Value → Except Failure Unit
  | never, v => require false never v .neverOccurs
  | literal l, v => require (l.accepts v) (literal l) v (.notEqual l)
  | tagged tag, v => require (v.tag = tag) (tagged tag) v (.notTagged tag)
  | instanceOf cls, v =>
    require (v.class?.any fun c => c.isA cls) (instanceOf cls) v (.notInstance cls)
  | guarded name test, v => require (test v) (guarded name test) v (.guardFailed name)
  | validation description test, v =>
    match test v with
    | .holds => .ok ()
    | .fails => require false (validation description test) v (.failedValidation description)
    | .raised messages =>
      require false (validation description test) v (.validationRaised description messages)
  | _, _ => .ok ()

mutual

/-- Checks a value and reports the keys that the shape knows, without forbidding others. -/
def judge : Shape → Value → Except Refusal KeyReport
  | array element, v =>
    untrackedIf (checkArray (array element) (fun x => settle element x (judge element x)) v)
  | map key value, v =>
    untrackedIf <| checkMap (map key value) (fun x => settle key x (judge key x))
      (fun x => settle value x (judge value x)) v
  | set element, v =>
    untrackedIf (checkSet (set element) (fun x => settle element x (judge element x)) v)
  | record r, v => judgeRecord (record r) r v
  | dict d, v => untrackedIf (checkDict (dict d) d v)
  | merged left right c, v => judgeConstraint (merged left right c) c v
  | union left right, v =>
    match judge left v with
    | .ok report => .ok report
    | .error refused =>
      match judge right v with
      | .ok report => .ok report
      | .error refusedToo =>
        .error (.branches (.here v (union left right))
          (refused.asBranches ++ refusedToo.asBranches))
  | inter left right, v =>
    match judge left v, judge right v with
    | .error refused, .error refusedToo =>
      .error (.sides (.here v (inter left right)) (refused.asSides ++ refusedToo.asSides))
    | .error refused, .ok _ => .error (.closed refused.failure)
    | .ok _, .error refused => .error (.closed refused.failure)
    | .ok a, .ok b =>
      .ok (if left.isValidation then b else if right.isValidation then a else a.both b)
  | commented _ inner, v => judge inner v
  | leaf, v => untrackedIf (checkLeaf leaf v)
termination_by structural s => s

/-- Checks the fields of a record, all of them. -/
def judgeRecord (expected : Shape) : RecordShape Shape → Value → Except Refusal KeyReport
  | ⟨fields, exact⟩, v =>
    match recordEntries expected v with
    | .error failure => .error (.closed failure)
    | .ok entries =>
      match fieldFailures fields entries with
      | [] => .ok ⟨some (Entries.keys fields), exact⟩
      | failure :: failures =>
        .error (.closed (.combine (.here v expected) (failure :: failures)))
termination_by structural r => r

/-- The failures of fields in order, each lifted by the name of its field. -/
def fieldFailures : List (String × Field Shape) → List (String × Value) → List Failure
  | [], _ => []
  | (name, ⟨shape, presence⟩) :: rest, entries =>
    let outcome : Except Failure Unit :=
      match Entries.get? entries name with
      | none =>
        if presence = .required then refuse shape .undefined (.missingKey name) else .ok ()
      | some v =>
        if presence = .optional ∧ v.isUndefined then .ok () else settle shape v (judge shape v)
    match outcome with
    | .ok () => fieldFailures rest entries
    | .error failure => failure.lift (.key name) :: fieldFailures rest entries
termination_by structural fields => fields

/-- Checks the values of all entries. -/
def checkDict (expected : Shape) : DictShape Shape → Value → Except Failure Unit
  | ⟨_, shape⟩, v => checkValues expected (fun x => settle shape x (judge shape x)) v
termination_by structural d => d

/-- Checks a constraint for the merged shape that carries it. With both parts, the dictionary is
asked first, a value that is no record is told so once, and unknown keys are never forbidden. -/
def judgeConstraint (expected : Shape) : Constraint Shape → Value → Except Refusal KeyReport
  | .record r, v => judgeRecord expected r v
  | .dict d, v => untrackedIf (checkDict expected d v)
  | .both r d, v =>
    let ofDict := checkDict expected d v
    if v.record?.isNone then untrackedIf ofDict
    else
      match ofDict, judgeRecord expected r v with
      | .ok (), .ok _ => .ok .untracked
      | .error failure, .ok _ => .error (.closed failure)
      | .ok (), .error refused => .error (.closed refused.failure)
      | .error failure, .error refused =>
        .error (.closed (.combine (.here v expected) [failure, refused.failure]))
termination_by structural c => c

end

/-- Checks a value and reports the keys that the shape knows. -/
def track (s : Shape) (v : Value) : Except Failure KeyReport :=
  match s.judge v with
  | .ok report => .ok report
  | .error refusal => .error refusal.failure

/-- Checks a value, and its keys where the shape may forbid some. -/
def check : Shape → Value → Except Failure Unit
  | array element, v => checkArray (array element) element.check v
  | map key value, v => checkMap (map key value) key.check value.check v
  | set element, v => checkSet (set element) element.check v
  | dict ⟨keyName, value⟩, v => checkValues (dict ⟨keyName, value⟩) value.check v
  | record r, v => settle (record r) v ((record r).judge v)
  | union left right, v => settle (union left right) v ((union left right).judge v)
  | inter left right, v => settle (inter left right) v ((inter left right).judge v)
  | merged left right c, v => settle (merged left right c) v ((merged left right c).judge v)
  | commented _ inner, v => inner.check v
  | leaf, v => leaf.checkLeaf v
termination_by structural s => s

/-- Whether a value is accepted. -/
def accepts (s : Shape) (v : Value) : Bool :=
  match s.check v with
  | .ok () => true
  | .error _ => false

/-- The entries of a record, those under the given names first and in the order of the names. -/
def arrange (names : List String) (entries : List (String × Value)) : List (String × Value) :=
  KeyReport.select entries names ++ entries.filter fun entry => !names.contains entry.1

/-- Checks a value and keeps all of it. -/
def copy (s : Shape) (v : Value) : Except Failure Value :=
  match s.check v with
  | .error failure => .error failure
  | .ok () => .ok v

/-- Tracks the keys of a value, settles them and keeps the known ones. -/
def project (s : Shape) (v : Value) : Except Failure Value :=
  match s.track v with
  | .error failure => .error failure
  | .ok report =>
    match report.enforce s v with
    | .error failure => .error failure
    | .ok () => .ok (report.project v)

/-- Checks a value and keeps what the shape knows of it. A merged shape that has both a record shape
and a dictionary knows every key, and puts those of its fields first. -/
def slice : Shape → Value → Except Failure Value
  | commented _ inner, v => inner.slice v
  | merged left right (.both r d), v =>
    match (merged left right (.both r d)).track v, v.record? with
    | .error failure, _ => .error failure
    | .ok _, some entries => .ok (.object (arrange (Entries.keys r.fields) entries))
    | .ok _, none => .ok v
  | merged left right c, v => (merged left right c).project v
  | record r, v => (record r).project v
  | union left right, v => (union left right).project v
  | inter left right, v => (inter left right).project v
  | s, v => s.copy v

@[simp] theorem judge_any (v : Value) : any.judge v = .ok .untracked := rfl

@[simp] theorem judge_commented (text : String) (s : Shape) (v : Value) :
    (commented text s).judge v = s.judge v := rfl

@[simp] theorem judge_record (r : RecordShape Shape) (v : Value) :
    (record r).judge v = judgeRecord (record r) r v := rfl

@[simp] theorem judge_dict (d : DictShape Shape) (v : Value) :
    (dict d).judge v = untrackedIf (checkDict (dict d) d v) := rfl

@[simp] theorem judge_merged (left right : Shape) (c : Constraint Shape) (v : Value) :
    (merged left right c).judge v = judgeConstraint (merged left right c) c v := rfl

/-- An intersection accepts what both of its sides accept. -/
theorem judge_inter_ok_iff {left right : Shape} {v : Value} :
    (∃ report, (inter left right).judge v = .ok report)
      ↔ (∃ a, left.judge v = .ok a) ∧ ∃ b, right.judge v = .ok b := by
  cases hl : left.judge v <;> cases hr : right.judge v <;> simp [judge, hl, hr]

@[simp] theorem check_commented (text : String) (s : Shape) (v : Value) :
    (commented text s).check v = s.check v := rfl

@[simp] theorem slice_commented (text : String) (s : Shape) (v : Value) :
    (commented text s).slice v = s.slice v := rfl

theorem accepts_iff {s : Shape} {v : Value} : s.accepts v = true ↔ s.check v = .ok () := by
  unfold accepts
  split <;> simp_all

end Shape

end ShapeCheck
