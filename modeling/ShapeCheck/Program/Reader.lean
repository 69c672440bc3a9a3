import ShapeCheck.Program.Token

/-!
# Reading documents

The parser of texts that a program decodes with. The tokens of a text are read one after the other.
What has been read so far is the stage of the innermost container and the containers around it, each
of which waits for a value. A key that comes twice in an object keeps its place and takes the later
value.
-/

namespace ShapeCheck.Document

/-- A container that waits for a value. -/
inductive Frame where
  /-- The items so far, the last one first. -/
  | array (items : List Document)
  /-- The entries so far, and the key of the value to come. -/
  | object (entries : List (String × Document)) (key : String)

/-- What comes next. -/
inductive Stage where
  | value
  /-- A value, or the end of the array that was just opened. -/
  | firstItem
  | afterItem (items : List Document)
  /-- A key, or the end of an object that was just opened. -/
  | key (entries : List (String × Document)) (mayClose : Bool)
  | colon (entries : List (String × Document)) (key : String)
  | afterEntry (entries : List (String × Document))
  | finished (document : Document)

structure Progress where
  outer : List Frame
  stage : Stage

/-- How many containers may be open at once. -/
def maxDepth : Nat := 127

namespace Progress

def start : Progress := ⟨[], .value⟩

/-- Gives a complete value to the container that waits for it. -/
def give (document : Document) : List Frame → Progress
  | [] => ⟨[], .finished document⟩
  | .array items :: outer => ⟨outer, .afterItem (document :: items)⟩
  | .object entries key :: outer => ⟨outer, .afterEntry (Entries.insert entries key document)⟩

/-- A value begins. -/
def beginValue (outer : List Frame) : Token → Except Fault Progress
  | .scalar document => document.map fun d => give d outer
  | .string text => text.map fun s => give (.string s) outer
  | .openArray =>
    if outer.length < maxDepth then .ok ⟨.array [] :: outer, .firstItem⟩ else .error .misplaced
  | .openObject =>
    if outer.length < maxDepth then .ok ⟨outer, .key [] true⟩ else .error .misplaced
  | _ => .error .misplaced

/-- Reads one token. -/
def step (progress : Progress) (token : Token) : Except Fault Progress :=
  match progress.stage, token with
  | .firstItem, .closeArray => .ok (give (.array []) progress.outer.tail)
  | .firstItem, token => beginValue progress.outer token
  | .value, token => beginValue progress.outer token
  | .afterItem items, .comma => .ok ⟨.array items :: progress.outer, .value⟩
  | .afterItem items, .closeArray => .ok (give (.array items.reverse) progress.outer)
  | .key entries _, .string text => text.map fun s => ⟨progress.outer, .colon entries s⟩
  | .key entries true, .closeObject => .ok (give (.object entries) progress.outer)
  | .colon entries key, .colon => .ok ⟨.object entries key :: progress.outer, .value⟩
  | .afterEntry entries, .comma => .ok ⟨progress.outer, .key entries false⟩
  | .afterEntry entries, .closeObject => .ok (give (.object entries) progress.outer)
  | _, _ => .error .misplaced

/-- The document, if the text has ended where it may. -/
def finish (progress : Progress) : Except Fault Document :=
  match progress.stage with
  | .finished document => .ok document
  | _ => .error .unfinished

end Progress

/-- The document of a text. -/
def ofText (text : String) : Except Fault Document :=
  match (tokens text).foldlM Progress.step .start with
  | .ok progress => progress.finish
  | .error fault => .error fault

end ShapeCheck.Document
