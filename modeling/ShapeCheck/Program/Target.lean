import ShapeCheck.Document.Basic
import ShapeCheck.Number.Text
import ShapeCheck.Text.Quoted

/-!
# Targets of decoding

The readers of documents that a program decodes with. A target says what a document has to be to
become typed data, and `Target.read` gives the document in the form of its target: integers become
floating numbers where those are asked for, records get their fields in the order of the target with
defaults filled in, and dictionaries are sorted by key. A document is read from front to back, and
the first fault ends it. Missing fields are noticed when all entries have been read.
-/

namespace ShapeCheck

/-- One step into a document. -/
inductive Step where
  | key (name : String)
  | index (i : Nat)
deriving DecidableEq, Repr

/-- The text of the steps behind a first one: keys are separated by points, indices are not. -/
def Step.textAfter : Step → String
  | key name => "." ++ name
  | index i => "[" ++ toString i ++ "]"

/-- The text of a way into a document. The whole document is a point. -/
def stepsText : List Step → String
  | [] => "."
  | .key name :: rest => name ++ String.join (rest.map Step.textAfter)
  | .index i :: rest => "[" ++ toString i ++ "]" ++ String.join (rest.map Step.textAfter)

/-- Why a document does not fit a target. -/
inductive Misfit where
  | wrongKind (got : Document) (wanted : String)
  | outOfRange (n : Int) (wanted : String)
  | missingField (name : String)
  | unknownField (name : String) (known : List String)
  /-- An array with too few items for a record with `count` fields. -/
  | tooShort (length : Nat) (wanted : String) (count : Nat)
  | tooLong (length : Nat)

/-- What a document is, in a message. -/
def Document.kindText : Document → String
  | null => "null"
  | bool b => "boolean `" ++ (if b then "true" else "false") ++ "`"
  | int n => "integer `" ++ toString n ++ "`"
  | float x => "floating point `" ++ Number.Style.document.text x ++ "`"
  | string s => "string " ++ Text.quote s
  | array _ => "sequence"
  | object _ => "map"

/-- The names of known fields, in a message. -/
def knownText (names : List String) : String :=
  let quoted := names.map fun name => "`" ++ name ++ "`"
  match quoted with
  | [] => "there are no fields"
  | [a] => "expected " ++ a
  | [a, b] => "expected " ++ a ++ " or " ++ b
  | several => "expected one of " ++ ", ".intercalate several

def Misfit.message : Misfit → String
  | wrongKind got wanted => "invalid type: " ++ got.kindText ++ ", expected " ++ wanted
  | outOfRange n wanted => "invalid value: integer `" ++ toString n ++ "`, expected " ++ wanted
  | missingField name => "missing field `" ++ name ++ "`"
  | unknownField name known => "unknown field `" ++ name ++ "`, " ++ knownText known
  | tooShort length wanted count =>
    "invalid length " ++ toString length ++ ", expected " ++ wanted ++ " with " ++ toString count
      ++ (if count = 1 then " element" else " elements")
  | tooLong length =>
    "invalid length " ++ toString length ++ ", expected fewer elements in array"

/-- A misfit and the way to the part that it is about. -/
structure DecodeFault where
  steps : List Step
  misfit : Misfit

def DecodeFault.below (step : Step) (fault : DecodeFault) : DecodeFault :=
  { fault with steps := step :: fault.steps }

/-- A misfit of the document itself. -/
def misfit {α : Type} (m : Misfit) : Except DecodeFault α := .error ⟨[], m⟩

/-- Puts a step in front of the way to a fault. -/
def belowStep {α : Type} (step : Step) (result : Except DecodeFault α) : Except DecodeFault α :=
  match result with
  | .ok a => .ok a
  | .error fault => .error (fault.below step)

/-- A field of a record target. The default stands for a missing field, whether the fields come from
an object or from an array. -/
structure TargetField (τ : Type) where
  target : τ
  default : Option Document

inductive Target where
  /-- Any document. -/
  | any
  /-- An integer within bounds, which the text names. -/
  | integer (wanted : String) (least largest : Int)
  | float
  | string
  | bool
  | nullable (inner : Target)
  | list (item : Target)
  | dictionary (value : Target)
  /-- A record with a name. A closed one forbids other fields. -/
  | record (name : String) (fields : List (String × TargetField Target)) (closed : Bool)

namespace Target

/-- Integers of 64 bits with a sign. -/
def int64 : Target := integer "i64" (-twoPow 63) (twoPow 63 - 1)

/-- Integers of eight bits without a sign. -/
def uint8 : Target := integer "u8" 0 255

/-- The document that a field without a default becomes if an object has no entry for it. In an
array such a field has to be there. -/
def ofMissing? : Target → Option Document
  | nullable _ => some .null
  | _ => none

/-- Reads items in order, from position `i` on. -/
def readItems (read : Document → Except DecodeFault Document) :
    Nat → List Document → Except DecodeFault (List Document)
  | _, [] => .ok []
  | i, d :: rest => do
    let item ← belowStep (.index i) (read d)
    let items ← readItems read (i + 1) rest
    pure (item :: items)

/-- Reads entries in order. Entries that no reader knows are skipped, or are a fault. -/
def readEntries (read : String → Document → Option (Except DecodeFault Document))
    (unknown : String → Except DecodeFault Unit) :
    List (String × Document) → Except DecodeFault (List (String × Document))
  | [] => .ok []
  | (key, d) :: rest =>
    match read key d with
    | some result => do
      let value ← belowStep (.key key) result
      let values ← readEntries read unknown rest
      pure ((key, value) :: values)
    | none => do
      belowStep (.key key) (unknown key)
      readEntries read unknown rest

/-- The fields of a record in order, from entries that have been read. A missing field takes its
default, and a nullable one without a default becomes null. -/
def fillFields (found : List (String × Document)) :
    List (String × TargetField Target) → Except DecodeFault (List (String × Document))
  | [] => .ok []
  | (name, field) :: rest =>
    match (Entries.get? found name).or (field.default.or field.target.ofMissing?) with
    | none => misfit (.missingField name)
    | some d => do
      let others ← fillFields found rest
      pure ((name, d) :: others)

mutual

/-- The document in the form of the target. -/
def read : Target → Document → Except DecodeFault Document
  | any, d => .ok d
  | integer wanted least largest, d =>
    match d with
    | .int n =>
      if least ≤ n ∧ n ≤ largest then .ok (.int n) else misfit (.outOfRange n wanted)
    | d => misfit (.wrongKind d wanted)
  | float, d =>
    match d with
    | .int n => .ok (.float (.ofInt n))
    | .float x => .ok (.float x)
    | d => misfit (.wrongKind d "f64")
  | string, d =>
    match d with
    | .string s => .ok (.string s)
    | d => misfit (.wrongKind d "a string")
  | bool, d =>
    match d with
    | .bool b => .ok (.bool b)
    | d => misfit (.wrongKind d "a boolean")
  | nullable inner, d =>
    match d with
    | .null => .ok .null
    | d => inner.read d
  | list item, d =>
    match d with
    | .array items => (readItems (fun d => item.read d) 0 items).map .array
    | d => misfit (.wrongKind d "a sequence")
  | dictionary value, d =>
    match d with
    | .object entries =>
      (readEntries (fun _ d => some (value.read d)) (fun _ => .ok ()) entries).map fun values =>
        .object (values.mergeSort fun a b => a.1 ≤ b.1)
    | d => misfit (.wrongKind d "a map")
  | record name fields closed, d =>
    match d with
    | .array items =>
      (readPositional ("struct " ++ name) fields.length items.length fields 0 items).map .object
    | .object entries =>
      (readEntries (fun key d => readMember fields key d)
        (fun key =>
          if closed then misfit (.unknownField key (Entries.keys fields)) else .ok ())
        entries).bind fun found => (fillFields found fields).map .object
    | d => misfit (.wrongKind d ("struct " ++ name))
termination_by structural t => t

/-- Reads a member by the target of its field, if there is such a field. -/
def readMember : List (String × TargetField Target) → String → Document →
    Option (Except DecodeFault Document)
  | [], _, _ => none
  | (name, ⟨target, _⟩) :: rest, key, d =>
    if name = key then some (target.read d) else readMember rest key d
termination_by structural fields => fields

/-- Reads the items of an array as the fields of a record in order, from position `i` on. Only
fields with a default may be missing at the end. -/
def readPositional (wanted : String) (count length : Nat) :
    List (String × TargetField Target) → Nat → List Document →
    Except DecodeFault (List (String × Document))
  | [], _, [] => .ok []
  | [], _, _ :: _ => misfit (.tooLong length)
  | (name, ⟨_, default⟩) :: rest, i, [] =>
    match default with
    | none => misfit (.tooShort i wanted count)
    | some d => (readPositional wanted count length rest (i + 1) []).map ((name, d) :: ·)
  | (name, ⟨target, _⟩) :: rest, i, d :: items =>
    match belowStep (.index i) (target.read d) with
    | .error fault => .error fault
    | .ok value =>
      (readPositional wanted count length rest (i + 1) items).map ((name, value) :: ·)
termination_by structural fields => fields

end

end Target

end ShapeCheck
