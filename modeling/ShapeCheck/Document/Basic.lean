import ShapeCheck.Value.Basic

/-!
# Documents

A JSON document tells integers from numbers with a fraction or an exponent. Values know one kind of
number, so that a document becomes a value by rounding its integers, and a value becomes a document
by writing what is an integer as one. Values that no document can hold become none.
-/

namespace ShapeCheck

inductive Document where
  | null
  | bool (b : Bool)
  | int (n : Int)
  | float (x : Double)
  | string (s : String)
  | array (items : List Document)
  | object (entries : List (String × Document))
deriving Inhabited

mutual

/-- The value of a document. -/
def Value.ofDocument : Document → Value
  | .null => .null
  | .bool b => .bool b
  | .int n => .ofInt n
  | .float x => .number x
  | .string s => .string s
  | .array items => .array (Value.slotsOfDocuments items)
  | .object entries => .object (Value.entriesOfDocuments entries)
termination_by structural d => d

def Value.slotsOfDocuments : List Document → List (Option Value)
  | [] => []
  | d :: rest => some (Value.ofDocument d) :: Value.slotsOfDocuments rest
termination_by structural ds => ds

def Value.entriesOfDocuments : List (String × Document) → List (String × Value)
  | [] => []
  | (key, d) :: rest => (key, Value.ofDocument d) :: Value.entriesOfDocuments rest
termination_by structural ds => ds

end

/-- The largest integer of a document that is made from a value. -/
def maxInteger : Int := twoPow 63 - 1

/-- The least integer of a document that is made from a value. -/
def minInteger : Int := -twoPow 63

/-- A finite number as a document: an integer if it is one in the range of integers, and else a
number with a fraction. The integer next above the range is capped to the largest one. -/
def Double.toDocument? (x : Double) : Option Document :=
  match x.integer? with
  | some n =>
    if minInteger ≤ n ∧ n ≤ maxInteger then some (.int n)
    else if n = maxInteger + 1 then some (.int maxInteger)
    else some (.float x)
  | none => if x.isFinite then some (.float x) else none

variable [DateFormat]

mutual

/-- The document of a value, if it has one. Symbols, functions, maps, sets, instances, the undefined
value and numbers that are not finite have none, and neither has what holds them. -/
def Value.toDocument? : Value → Option Document
  | .null => some .null
  | .bool b => some (.bool b)
  | .number x => x.toDocument?
  | .string s => some (.string s)
  | .date instant => some (.string instant.text)
  | .array slots => (Value.documentsOfSlots? slots).map .array
  | .object entries => (Value.documentsOfEntries? entries).map .object
  | _ => none
termination_by structural v => v

/-- Holes and the undefined value become null. -/
def Value.documentsOfSlots? : List (Option Value) → Option (List Document)
  | [] => some []
  | none :: rest => (Value.documentsOfSlots? rest).map (.null :: ·)
  | some v :: rest =>
    if v.isUndefined then (Value.documentsOfSlots? rest).map (.null :: ·)
    else
      match v.toDocument?, Value.documentsOfSlots? rest with
      | some d, some ds => some (d :: ds)
      | _, _ => none
termination_by structural slots => slots

/-- Entries with the undefined value are left out. -/
def Value.documentsOfEntries? : List (String × Value) → Option (List (String × Document))
  | [] => some []
  | (key, v) :: rest =>
    if v.isUndefined then Value.documentsOfEntries? rest
    else
      match v.toDocument?, Value.documentsOfEntries? rest with
      | some d, some ds => some ((key, d) :: ds)
      | _, _ => none
termination_by structural entries => entries

end

end ShapeCheck
