import ShapeCheck.Program.Number

/-!
# Tokens of documents

Every position of a text that is neither inside a token nor blank begins a token. A token that is
cut short or malformed is a token too and carries its fault, which counts only where such a token
may stand: elsewhere its first character is already misplaced. Nothing is read behind such a token.
-/

namespace ShapeCheck.Document

inductive Token where
  | openArray
  | closeArray
  | openObject
  | closeObject
  | comma
  | colon
  | string (text : Except Fault String)
  /-- A number or a word. -/
  | scalar (document : Except Fault Document)
  /-- A character that begins no token. -/
  | stray

/-- The value of four hexadecimal digits. -/
def hexValue (digits : List Char) : Option Nat :=
  digits.foldl (fun value c => do
    let n ← value
    let d ←
      if '0' ≤ c ∧ c ≤ '9' then some (c.toNat - '0'.toNat)
      else if 'a' ≤ c ∧ c ≤ 'f' then some (c.toNat - 'a'.toNat + 10)
      else if 'A' ≤ c ∧ c ≤ 'F' then some (c.toNat - 'A'.toNat + 10)
      else none
    return 16 * n + d) (some 0)

/-- The four hexadecimal digits of an escape. A text with fewer than four bytes left is too short,
whatever it holds. -/
def readHex (text : List Char) : Except Fault Nat :=
  let digits := text.take 4
  if digits.foldl (fun size c => size + c.utf8Size) 0 < 4 then .error .unfinished
  else
    match hexValue digits with
    | some n => .ok n
    | none => .error .misplaced

def isHighSurrogate (n : Nat) : Bool := 0xD800 ≤ n && n < 0xDC00

def isLowSurrogate (n : Nat) : Bool := 0xDC00 ≤ n && n < 0xE000

/-- The second half of a character that is written as two escapes. -/
def readLowSurrogate (text : List Char) : Except Fault Nat :=
  match text with
  | '\\' :: 'u' :: rest => do
    let n ← readHex rest
    if isLowSurrogate n then pure n else throw .misplaced
  | '\\' :: rest => .error (.at rest)
  | _ => .error (.at text)

/-- The character of an escape behind its backslash, and how many characters it takes there. -/
def readEscape (text : List Char) : Except Fault (Char × Nat) :=
  match text with
  | '"' :: _ => .ok ('"', 1)
  | '\\' :: _ => .ok ('\\', 1)
  | '/' :: _ => .ok ('/', 1)
  | 'b' :: _ => .ok ('\x08', 1)
  | 'f' :: _ => .ok ('\x0c', 1)
  | 'n' :: _ => .ok ('\n', 1)
  | 'r' :: _ => .ok ('\r', 1)
  | 't' :: _ => .ok ('\t', 1)
  | 'u' :: rest => do
    let n ← readHex rest
    if isLowSurrogate n then throw .misplaced
    else if isHighSurrogate n then
      let low ← readLowSurrogate (rest.drop 4)
      pure (Char.ofNat (0x10000 + (n - 0xD800) * 0x400 + (low - 0xDC00)), 11)
    else pure (Char.ofNat n, 5)
  | _ => .error (.at text)

/-- The rest of a string behind its opening quote, after `skip` characters that belong to an escape,
and how many characters it takes, the closing quote included. -/
def readString : Nat → List Char → Except Fault (List Char × Nat)
  | _, [] => .error .unfinished
  | skip + 1, _ :: rest => (readString skip rest).map fun (text, size) => (text, size + 1)
  | 0, c :: rest =>
    if c = '"' then .ok ([], 1)
    else if c = '\\' then
      match readEscape rest with
      | .error fault => .error fault
      | .ok (d, size) => (readString size rest).map fun (text, size) => (d :: text, size + 1)
    else if c < ' ' then .error .misplaced
    else (readString 0 rest).map fun (text, size) => (c :: text, size + 1)

/-- A word that a text has to begin with. The text may end before the word does. -/
def readWord (document : Document) : List Char → List Char → Except Fault Document
  | [], _ => .ok document
  | _, [] => .error .unfinished
  | w :: word, c :: text => if w = c then readWord document word text else .error .misplaced

def isBlank (c : Char) : Bool := c = ' ' || c = '\t' || c = '\n' || c = '\r'

/-- A token and how many characters it takes. -/
def sized {α : Type} (token : Except Fault α → Token) : Except Fault (α × Nat) → Token × Nat
  | .ok (a, size) => (token (.ok a), size)
  | .error fault => (token (.error fault), 1)

/-- The token that begins with a character, where `text` begins with that character too, and how
many characters it takes. -/
def readToken (c : Char) (text : List Char) : Token × Nat :=
  match c with
  | '[' => (.openArray, 1)
  | ']' => (.closeArray, 1)
  | '\x7b' => (.openObject, 1)
  | '\x7d' => (.closeObject, 1)
  | ',' => (.comma, 1)
  | ':' => (.colon, 1)
  | '"' =>
    sized .string ((readString 0 (text.drop 1)).map fun (s, size) => (String.ofList s, size + 1))
  | 'n' => sized .scalar ((readWord .null "null".toList text).map (·, 4))
  | 't' => sized .scalar ((readWord (.bool true) "true".toList text).map (·, 4))
  | 'f' => sized .scalar ((readWord (.bool false) "false".toList text).map (·, 5))
  | c => if c = '-' || c.isDigit then sized .scalar (readNumber text) else (.stray, 1)

def Token.isFaulty : Token → Bool
  | string (.error _) => true
  | scalar (.error _) => true
  | stray => true
  | _ => false

/-- The tokens of a text, after `skip` characters that belong to a token. -/
def tokensFrom : Nat → List Char → List Token
  | _, [] => []
  | skip + 1, _ :: rest => tokensFrom skip rest
  | 0, c :: rest =>
    if isBlank c then tokensFrom 0 rest
    else
      let (token, size) := readToken c (c :: rest)
      if token.isFaulty then [token] else token :: tokensFrom (size - 1) rest

/-- The tokens of a text up to the first one that is at fault. -/
def tokens (text : String) : List Token := tokensFrom 0 text.toList

end ShapeCheck.Document
