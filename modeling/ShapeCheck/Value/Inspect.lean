import ShapeCheck.Number.Text
import ShapeCheck.Text.Identifier
import ShapeCheck.Value.Basic

/-!
# Values as text

`Value.line` writes a value on one line. `Value.inspect` writes it on one line if that line is at
most 72 characters wide, and otherwise breaks the container: one entry per line, indented by two
spaces for each level, where every entry is again one line if it fits behind its indentation and is
broken if it does not. The key of an entry does not count when its value is fitted. Both writers use
the same brackets and separators, and differ in spaces and newlines only.
-/

namespace ShapeCheck

namespace Inspect

/-- The widest line that is not broken. -/
def maxWidth : Nat := 72

/-- The spaces in front of a line at some depth. -/
def margin (depth : Nat) : String := "".pushn ' ' (2 * depth)

/-- Parts in square brackets on one line. -/
def bracketLine (parts : List String) : String :=
  "[" ++ ", ".intercalate parts ++ "]"

/-- Parts in braces on one line, with a space inside each brace unless there are no parts. -/
def braceLine (header : String) (parts : List String) : String :=
  if parts.isEmpty then header ++ "\x7b\x7d"
  else header ++ "\x7b " ++ ", ".intercalate parts ++ " \x7d"

/-- Parts on lines of their own between an opening and a closing text. The parts carry their own
margins. -/
def block (opening closing : String) (depth : Nat) (parts : List String) : String :=
  opening ++ "\n" ++ ",\n".intercalate parts ++ "\n" ++ margin depth ++ closing

/-- Whether one line fits behind the margin of the entries of a container at some depth. -/
def fits (depth : Nat) (line : String) : Bool :=
  line.length + 2 * (depth + 1) ≤ maxWidth

end Inspect

open Inspect

variable [DateFormat]

mutual

/-- A value on one line. -/
def Value.line : Value → String
  | .undefined => "undefined"
  | .null => "null"
  | .bool b => if b then "true" else "false"
  | .number x => x.text
  | .string s => Text.quote s
  | .symbol description => "Symbol(" ++ description.getD "" ++ ")"
  | .function (some name) => "[Function " ++ name ++ "]"
  | .function none => "[Function (anonymous)]"
  | .array slots => bracketLine (Inspect.slotLines slots)
  | .object entries => braceLine "" (Inspect.entryLines entries)
  | .map entries => braceLine "Map " (Inspect.pairLines entries)
  | .set items => braceLine "Set " (Inspect.itemLines items)
  | .date instant => instant.text
  | .instance cls entries => braceLine (cls.name ++ " ") (Inspect.entryLines entries)
termination_by structural v => v

def Inspect.slotLines : List (Option Value) → List String
  | [] => []
  | none :: rest => "<empty>" :: Inspect.slotLines rest
  | some v :: rest => v.line :: Inspect.slotLines rest
termination_by structural xs => xs

def Inspect.entryLines : List (String × Value) → List String
  | [] => []
  | (key, v) :: rest => (Text.showKey key ++ ": " ++ v.line) :: Inspect.entryLines rest
termination_by structural xs => xs

def Inspect.pairLines : List (Value × Value) → List String
  | [] => []
  | (k, v) :: rest => (k.line ++ " => " ++ v.line) :: Inspect.pairLines rest
termination_by structural xs => xs

def Inspect.itemLines : List Value → List String
  | [] => []
  | v :: rest => v.line :: Inspect.itemLines rest
termination_by structural xs => xs

end

mutual

/-- A value at some depth with its outermost container broken. Values without parts stay on one
line. -/
def Value.broken : Value → Nat → String
  | .array (slot :: slots), depth => block "[" "]" depth (Inspect.slotBlocks (slot :: slots) depth)
  | .object (entry :: entries), depth =>
    block "\x7b" "\x7d" depth (Inspect.entryBlocks (entry :: entries) depth)
  | .map (entry :: entries), depth =>
    block "Map \x7b" "\x7d" depth (Inspect.pairBlocks (entry :: entries) depth)
  | .set (item :: items), depth =>
    block "Set \x7b" "\x7d" depth (Inspect.itemBlocks (item :: items) depth)
  | .instance cls (entry :: entries), depth =>
    block (cls.name ++ " \x7b") "\x7d" depth (Inspect.entryBlocks (entry :: entries) depth)
  | v, _ => v.line
termination_by structural v => v

/-- The slots of an array at some depth, each behind its margin. -/
def Inspect.slotBlocks : List (Option Value) → Nat → List String
  | [], _ => []
  | none :: rest, depth => (margin (depth + 1) ++ "<empty>") :: Inspect.slotBlocks rest depth
  | some v :: rest, depth =>
    (margin (depth + 1) ++ (if fits depth v.line then v.line else v.broken (depth + 1)))
      :: Inspect.slotBlocks rest depth
termination_by structural xs => xs

def Inspect.entryBlocks : List (String × Value) → Nat → List String
  | [], _ => []
  | (key, v) :: rest, depth =>
    (margin (depth + 1) ++ Text.showKey key ++ ": "
        ++ (if fits depth v.line then v.line else v.broken (depth + 1)))
      :: Inspect.entryBlocks rest depth
termination_by structural xs => xs

/-- The entries of a map. Keys are never broken. -/
def Inspect.pairBlocks : List (Value × Value) → Nat → List String
  | [], _ => []
  | (k, v) :: rest, depth =>
    (margin (depth + 1) ++ k.line ++ " => "
        ++ (if fits depth v.line then v.line else v.broken (depth + 1)))
      :: Inspect.pairBlocks rest depth
termination_by structural xs => xs

def Inspect.itemBlocks : List Value → Nat → List String
  | [], _ => []
  | v :: rest, depth =>
    (margin (depth + 1) ++ (if fits depth v.line then v.line else v.broken (depth + 1)))
      :: Inspect.itemBlocks rest depth
termination_by structural xs => xs

end

/-- A value as it is shown: on one line if that is narrow enough, else broken. -/
def Value.inspect (v : Value) : String :=
  if v.line.length ≤ maxWidth then v.line else v.broken 0

theorem Value.inspect_of_narrow {v : Value} (h : v.line.length ≤ maxWidth) :
    v.inspect = v.line := by
  simp [Value.inspect, h]

theorem Value.inspect_of_wide {v : Value} (h : maxWidth < v.line.length) :
    v.inspect = v.broken 0 := by
  simp [Value.inspect, Nat.not_le.2 h]

end ShapeCheck
