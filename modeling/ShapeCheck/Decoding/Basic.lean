import ShapeCheck.Document.Basic
import ShapeCheck.Rejection

/-!
# Decoding

Decoding slices a value by a shape, turns the slice into a document and hands the document to a
reader. Slicing comes first, so that keys which a record shape does not know are gone before the
reader sees them. What readers make of documents, and how texts become documents, is not decided
here: both are arguments, and whatever they find at fault is kept as they tell it.
-/

namespace ShapeCheck

/-- Why decoding failed, where the parser of texts finds faults `φ` and the reader of documents
faults `ρ`. -/
inductive DecodingError (φ ρ : Type) where
  /-- The value did not match the shape. -/
  | mismatch (rejection : Rejection)
  /-- The slice has no document. -/
  | noDocument (sliced : Value)
  /-- The text is no document. -/
  | badText (fault : φ)
  /-- The reader refused the document. -/
  | misfit (fault : ρ)

variable {φ ρ α : Type} [DateFormat]

/-- The message of a failure, from the texts of faults and the place and detail of a misfit. -/
def DecodingError.messageBy (faultText : φ → String) (place detail : ρ → String) :
    DecodingError φ ρ → String
  | mismatch rejection => rejection.message
  | noDocument sliced => "value cannot be represented as JSON: " ++ sliced.inspect
  | badText fault => "invalid JSON source: " ++ faultText fault
  | misfit fault => "at JSON path " ++ place fault ++ " → " ++ detail fault

namespace Shape

/-- Slices a value and reads the document of the slice. -/
def decodeBy (read : Document → Except (DecodingError φ ρ) α) (s : Shape) (v : Value) :
    Except (DecodingError φ ρ) α :=
  match s.insistSlice v with
  | .error rejection => .error (.mismatch rejection)
  | .ok sliced =>
    match sliced.toDocument? with
    | none => .error (.noDocument sliced)
    | some document => read document

/-- Decodes the value of a text. -/
def decodeTextBy (parse : String → Except (DecodingError φ ρ) Document)
    (read : Document → Except (DecodingError φ ρ) α) (s : Shape) (text : String) :
    Except (DecodingError φ ρ) α :=
  match parse text with
  | .error e => .error e
  | .ok document => s.decodeBy read (.ofDocument document)

end Shape

end ShapeCheck
