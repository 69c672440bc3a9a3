import ShapeCheck.Failure.Basic
import ShapeCheck.Text.Lines

/-!
# Failures as text

A failure is written with its path, the value, the expected shape and its message. If value and
shape are short, they stand on one line and the message is indented below it; otherwise each stands
in a block of its own. The message of a failure with causes holds the texts of its causes.
-/

namespace ShapeCheck

/-- The widest text of a value or a shape that stands within a line. -/
def inlineWidth : Nat := 40

/-- Whether a text may stand within a line. -/
def fitsInline (text : String) : Bool :=
  !text.toList.contains '\n' && text.length ≤ inlineWidth

variable [DateFormat]

/-- A place and a message as one text. -/
def Site.report (site : Site) (message : String) : String :=
  let place := if site.path.isEmpty then "" else "at " ++ site.path.text ++ ": "
  let value := site.value.inspect
  let expected := site.expected.text
  if fitsInline value && fitsInline expected then
    place ++ "given value `" ++ value ++ "` did not match expected type `" ++ expected ++ "`:\n"
      ++ Text.indent message
  else
    place ++ "given value\n" ++ Text.indent value ++ "\ndid not match expected type\n"
      ++ Text.indent expected ++ "\nbecause: " ++ Text.indentNext message

namespace Failure

/-- The text of a cause that belongs to a branch. -/
def bulleted (render : String) : String := Text.indent ("- " ++ Text.indentNext render)

mutual

/-- Why the value was refused. -/
def message : Failure → String
  | leaf _ reason => reason.message
  | several _ causes =>
    "failed multiple checks:\n" ++ "\n".intercalate ((renderAll causes).map Text.indent)
  | noBranch _ causes =>
    "did not match any type in the union:\n" ++ "\n".intercalate ((renderAll causes).map bulleted)
  | rerooted _ cause => cause.site.report cause.message
termination_by structural f => f

/-- The texts of failures. -/
def renderAll : List Failure → List String
  | [] => []
  | cause :: causes => cause.site.report cause.message :: renderAll causes
termination_by structural causes => causes

end

/-- The text of a failure. -/
def render (f : Failure) : String := f.site.report f.message

theorem renderAll_eq_map (fs : List Failure) : renderAll fs = fs.map render := by
  induction fs with
  | nil => rfl
  | cons f fs ih => rw [renderAll, ih]; rfl

theorem map_renderAll (g : String → String) (fs : List Failure) :
    (renderAll fs).map g = fs.map fun f => g f.render := by
  rw [renderAll_eq_map, List.map_map]
  rfl

theorem message_several (site : Site) (causes : List Failure) :
    (several site causes).message
      = "failed multiple checks:\n"
        ++ "\n".intercalate (causes.map fun c => Text.indent c.render) := by
  rw [← map_renderAll]
  rfl

theorem message_noBranch (site : Site) (causes : List Failure) :
    (noBranch site causes).message
      = "did not match any type in the union:\n"
        ++ "\n".intercalate (causes.map fun c => bulleted c.render) := by
  rw [← map_renderAll]
  rfl

theorem message_rerooted (site : Site) (cause : Failure) :
    (rerooted site cause).message = cause.render := rfl

/-- A failure with the names of its parts, where texts are quoted. -/
def describedWith (site : Site) (message : String) (causes : List String) : String :=
  "Failure \x7b path: " ++ Text.quote site.path.text
    ++ ", expected: " ++ Text.quote site.expected.text
    ++ ", message: " ++ Text.quote message
    ++ ", causes: [" ++ ", ".intercalate causes ++ "] \x7d"

mutual

/-- A failure and all its causes with the names of their parts. -/
def described : Failure → String
  | leaf site reason => describedWith site reason.message []
  | several site causes =>
    describedWith site (several site causes).message (describedAll causes)
  | noBranch site causes =>
    describedWith site (noBranch site causes).message (describedAll causes)
  | rerooted site cause => describedWith site (rerooted site cause).message [cause.described]
termination_by structural f => f

def describedAll : List Failure → List String
  | [] => []
  | cause :: causes => cause.described :: describedAll causes
termination_by structural causes => causes

end

end Failure

end ShapeCheck
