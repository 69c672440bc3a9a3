import ShapeCheck.Decoding.Basic
import ShapeCheck.Program.Calendar
import ShapeCheck.Program.Pattern
import ShapeCheck.Program.Reader
import ShapeCheck.Program.Target

/-!
# Decoding in a program

A program decodes with the parser, the targets and the format of dates that it brings along. All
that is known of decoding is known of any parser, reader and format.
-/

namespace ShapeCheck

abbrev DecodeError := DecodingError Document.Fault DecodeFault

/-- The class of a fault in the text of a document, as messages name it. -/
def Document.Fault.text : Document.Fault → String
  | unfinished => "<eof>"
  | misplaced => "<syntax>"

def DecodeError.message (e : DecodeError) : String :=
  e.messageBy Document.Fault.text (fun fault => stepsText fault.steps) (·.misfit.message)

/-- Reads a document by a target. -/
def Document.decode (target : Target) (document : Document) : Except DecodeError Document :=
  (target.read document).mapError .misfit

/-- The document of a text. -/
def Document.parse (text : String) : Except DecodeError Document :=
  (Document.ofText text).mapError .badText

namespace Shape

/-- Slices a value and reads the slice by a target. -/
def decode (s : Shape) (target : Target) (v : Value) : Except DecodeError Document :=
  s.decodeBy (Document.decode target) v

/-- Decodes the value of a text by a target. -/
def decodeText (s : Shape) (target : Target) (text : String) : Except DecodeError Document :=
  s.decodeTextBy Document.parse (Document.decode target) text

end Shape

end ShapeCheck
