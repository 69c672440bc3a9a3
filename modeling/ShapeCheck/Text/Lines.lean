/-!
# Lines of a text

A line ends at a newline, together with one carriage return that stands right before it. A text
that ends in a newline has no empty line after it, and a carriage return anywhere else belongs to
its line. Indentation works line by line and joins the lines with single newlines again.
-/

namespace ShapeCheck.Text

/-- One character in front of lines that still carry their newlines: a newline closes a line of its
own, and any other character joins the line that follows it. -/
def consChar (c : Char) : List (List Char) → List (List Char)
  | [] => [[c]]
  | line :: rest => if c = '\n' then [c] :: line :: rest else (c :: line) :: rest

/-- The lines with their newlines, which concatenate to the whole text. -/
def closedLines (text : List Char) : List (List Char) :=
  text.foldr consChar []

/-- A line without its newline and without one carriage return before that newline. A line that no
newline closes keeps every character. -/
def chomp (line : List Char) : List Char :=
  if line.getLast? = some '\n' then
    let body := line.dropLast
    if body.getLast? = some '\r' then body.dropLast else body
  else
    line

/-- The lines of a text, without what ends them. -/
def lines (text : String) : List String :=
  (closedLines text.toList).map fun line => String.ofList (chomp line)

/-- Two spaces before every line. -/
def indent (text : String) : String :=
  "\n".intercalate ((lines text).map ("  " ++ ·))

/-- Two spaces before every line but the first. -/
def indentNext (text : String) : String :=
  match lines text with
  | [] => ""
  | first :: rest => "\n".intercalate (first :: rest.map ("  " ++ ·))

@[simp] theorem closedLines_nil : closedLines [] = [] := rfl

@[simp] theorem closedLines_cons (c : Char) (text : List Char) :
    closedLines (c :: text) = consChar c (closedLines text) := rfl

theorem flatten_consChar (c : Char) (ls : List (List Char)) :
    (consChar c ls).flatten = c :: ls.flatten := by
  cases ls with
  | nil => rfl
  | cons line rest =>
    by_cases h : c = '\n' <;> simp [consChar, h]

/-- Splitting into lines loses nothing. -/
@[simp] theorem flatten_closedLines (text : List Char) : (closedLines text).flatten = text := by
  induction text with
  | nil => rfl
  | cons c text ih => rw [closedLines_cons, flatten_consChar, ih]

@[simp] theorem lines_empty : lines "" = [] := rfl

@[simp] theorem indent_empty : indent "" = "" := rfl

@[simp] theorem indentNext_empty : indentNext "" = "" := rfl

end ShapeCheck.Text
