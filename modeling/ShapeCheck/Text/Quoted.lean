import ShapeCheck.Text.CombiningMarks
import ShapeCheck.Text.Ignorable
import ShapeCheck.Text.Visible

/-!
# Quoted text

A quoted text stands between double quotes. Inside, a double quote, a backslash and the common
control characters have short escapes, every other character that cannot be read on its own is
written by its code point, and the rest stands for itself. Single quotes need no escape, because
they never end the text.
-/

namespace ShapeCheck.Text

/-- Whether a character can be read where it stands: a space, or a visible character that is neither
drawn onto the one before it nor left out. -/
def isReadable (c : Char) : Bool :=
  if c.toNat < 0x7f then 0x20 ≤ c.toNat
  else visible.contains c && !combiningMarks.contains c && !ignorable.contains c

/-- The code point in lower-case hexadecimal digits, without leading zeros. -/
def codePointEscape (c : Char) : String :=
  "\\u\x7b" ++ String.ofList (Nat.toDigits 16 c.toNat) ++ "\x7d"

/-- How one character is written inside quotes. -/
def escapeChar (c : Char) : String :=
  match c with
  | '"' => "\\\""
  | '\\' => "\\\\"
  | '\n' => "\\n"
  | '\r' => "\\r"
  | '\t' => "\\t"
  | '\x00' => "\\0"
  | c => if isReadable c then c.toString else codePointEscape c

/-- The text between double quotes, with every character escaped that needs it. -/
def quote (text : String) : String :=
  "\"" ++ String.join (text.toList.map escapeChar) ++ "\""

example : quote "it's \"so\"" = "\"it's \\\"so\\\"\"" := by decide +kernel

example : quote "a\u0301\n\u0001" = "\"a\\u\x7b301\x7d\\n\\u\x7b1\x7d\"" := by decide +kernel

end ShapeCheck.Text
