import ShapeCheck.Text.Alphabetic
import ShapeCheck.Text.Numeric
import ShapeCheck.Text.Quoted

/-!
# Identifiers

A key that looks like an identifier is written as it is, and any other key in quotes. An identifier
starts with a letter, an underscore or a dollar sign and goes on with those and with digits, in any
script.
-/

namespace ShapeCheck.Text

/-- An alphabetic character, an underscore or a dollar sign. -/
def startsIdentifier (c : Char) : Bool :=
  c = '_' || c = '$' || alphabetic.contains c

/-- A character that may start an identifier, or a numeric one. -/
def continuesIdentifier (c : Char) : Bool :=
  startsIdentifier c || numeric.contains c

/-- Whether a text is one identifier. The empty text is none. -/
def isIdentifier (text : String) : Bool :=
  match text.toList with
  | [] => false
  | c :: rest => startsIdentifier c && rest.all continuesIdentifier

/-- A record key as it is shown: bare if it is an identifier, else quoted. -/
def showKey (key : String) : String :=
  if isIdentifier key then key else quote key

theorem showKey_of_isIdentifier {key : String} (h : isIdentifier key = true) :
    showKey key = key := by
  simp [showKey, h]

theorem showKey_of_not_isIdentifier {key : String} (h : isIdentifier key = false) :
    showKey key = quote key := by
  simp [showKey, h]

end ShapeCheck.Text
