/-
  `Token` — the words of a JSON text.

  Only blanks may stand between tokens. Two tokens that belong to values never
  follow each other in a document, so cutting a text into tokens first loses
  nothing.
-/
import FanControl.Json.Quoted

namespace FanControl.Json

/-- A word of a JSON text. -/
inductive Token where
  | openObject
  | closeObject
  | openArray
  | closeArray
  | colon
  | comma
  | null
  | bool (b : Bool)
  /-- A number as it is written. -/
  | number (literal : List Char)
  /-- A string; none if it spells no text. -/
  | string (text : Option (List Char))
deriving DecidableEq, Repr

namespace Token

/-- A blank of JSON. -/
def isBlank (c : Char) : Bool := c == ' ' || c == '\t' || c == '\n' || c == '\r'

/-! ### Numbers -/

/-- The longest run of digits at the start, and the rest. -/
def digits (s : List Char) : List Char × List Char :=
  (s.takeWhile Char.isDigit, s.dropWhile Char.isDigit)

/-- One or more digits after what was read so far. -/
def digits1? (read s : List Char) : Option (List Char × List Char) :=
  match digits s with
  | ([], _) => none
  | (ds, rest) => some (read ++ ds, rest)

/-- The whole part: a zero alone, or digits that do not start with one. -/
def whole? (read s : List Char) : Option (List Char × List Char) :=
  match s with
  | '0' :: rest => some (read ++ ['0'], rest)
  | s => digits1? read s

/-- The fraction, if there is a point. -/
def fraction? (read s : List Char) : Option (List Char × List Char) :=
  match s with
  | '.' :: rest => digits1? (read ++ ['.']) rest
  | s => some (read, s)

/-- The exponent, if there is one. -/
def exponent? (read s : List Char) : Option (List Char × List Char) :=
  match s with
  | 'e' :: '+' :: rest | 'e' :: '-' :: rest | 'E' :: '+' :: rest | 'E' :: '-' :: rest =>
    digits1? (read ++ s.take 2) rest
  | 'e' :: rest | 'E' :: rest => digits1? (read ++ s.take 1) rest
  | s => some (read, s)

/-- The number at the start of a text, as it is written, and the rest. -/
def number? (s : List Char) : Option (List Char × List Char) := do
  let (read, s) := match s with
    | '-' :: rest => (['-'], rest)
    | s => ([], s)
  let (read, s) ← whole? read s
  let (read, s) ← fraction? read s
  exponent? read s

/-! ### Tokens -/

/-- The token at the start of a text that does not start with a blank, and the rest. -/
def next? (s : List Char) : Option (Token × List Char) :=
  match s with
  | '\x7b' :: rest => some (.openObject, rest)
  | '\x7d' :: rest => some (.closeObject, rest)
  | '[' :: rest => some (.openArray, rest)
  | ']' :: rest => some (.closeArray, rest)
  | ':' :: rest => some (.colon, rest)
  | ',' :: rest => some (.comma, rest)
  | 'n' :: 'u' :: 'l' :: 'l' :: rest => some (.null, rest)
  | 't' :: 'r' :: 'u' :: 'e' :: rest => some (.bool true, rest)
  | 'f' :: 'a' :: 'l' :: 's' :: 'e' :: rest => some (.bool false, rest)
  | '"' :: rest => do
    let (parts, rest) ← Quoted.scan rest
    return (.string (Quoted.text? parts), rest)
  | s => do
    let (literal, rest) ← number? s
    return (.number literal, rest)

/-- The tokens of a text, at most `fuel` of them. -/
def cut : (fuel : Nat) → List Char → Option (List Token)
  | fuel, s =>
    match s.dropWhile isBlank with
    | [] => some []
    | s =>
      match fuel with
      | 0 => none
      | fuel + 1 => do
        let (t, rest) ← next? s
        return t :: (← cut fuel rest)

/-- The tokens of a text. Each takes at least one character. -/
def ofText? (s : List Char) : Option (List Token) := cut s.length s

end Token

end FanControl.Json
