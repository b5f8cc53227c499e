/-
  `Quoted` — texts as JSON writes them between quotes.

  Writing escapes quotes, backslashes and controls and nothing else. Reading
  knows more escapes; one by number gives a UTF-16 unit, and two units of a
  surrogate pair give one character. A surrogate without its partner is allowed
  by the grammar but stands for no character, so such a string has no text.
-/
import FanControl.Text.Decimal

namespace FanControl.Json.Quoted

/-! ### Writing -/

/-- The hexadecimal digit for a number below sixteen. -/
def hexDigit (n : Nat) : Char := Nat.digitChar n

/-- What stands for one character. -/
def escape (c : Char) : List Char :=
  match c.toNat with
  | 0x22 => ['\\', '"']
  | 0x5c => ['\\', '\\']
  | 0x08 => ['\\', 'b']
  | 0x0c => ['\\', 'f']
  | 0x0a => ['\\', 'n']
  | 0x0d => ['\\', 'r']
  | 0x09 => ['\\', 't']
  | n => if n < 0x20 then ['\\', 'u', '0', '0', hexDigit (n / 16), hexDigit (n % 16)] else [c]

/-- A text between quotes. -/
def encode (s : List Char) : List Char := '"' :: s.flatMap escape ++ ['"']

/-! ### Reading -/

/-- A part of a quoted text: a character, or a UTF-16 unit given by number. -/
inductive Part where
  | char (c : Char)
  | unit (n : Nat)
deriving DecidableEq, Repr

/-- The value of a hexadecimal digit. -/
def hexValue? (c : Char) : Option Nat :=
  if c.isDigit then some (c.toNat - '0'.toNat)
  else if 'a' ≤ c ∧ c ≤ 'f' then some (c.toNat - 'a'.toNat + 10)
  else if 'A' ≤ c ∧ c ≤ 'F' then some (c.toNat - 'A'.toNat + 10)
  else none

/-- The number that four hexadecimal digits denote. -/
def hex4? (a b c d : Char) : Option Nat := do
  let a ← hexValue? a
  let b ← hexValue? b
  let c ← hexValue? c
  let d ← hexValue? d
  return ((a * 16 + b) * 16 + c) * 16 + d

/-- The character for the letter of a short escape. -/
def shortEscape? (c : Char) : Option Char :=
  match c with
  | '"' => some '"'
  | '\\' => some '\\'
  | '/' => some '/'
  | 'b' => some '\x08'
  | 'f' => some '\x0c'
  | 'n' => some '\n'
  | 'r' => some '\r'
  | 't' => some '\t'
  | _ => none

/-- The parts up to the closing quote, and what follows it. Controls have to be escaped. -/
def scan : List Char → Option (List Part × List Char)
  | [] => none
  | '"' :: rest => some ([], rest)
  | '\\' :: 'u' :: a :: b :: c :: d :: rest => do
    let n ← hex4? a b c d
    let (parts, rest) ← scan rest
    return (.unit n :: parts, rest)
  | '\\' :: e :: rest => do
    let c ← shortEscape? e
    let (parts, rest) ← scan rest
    return (.char c :: parts, rest)
  | c :: rest =>
    if c = '\\' ∨ c.toNat < 0x20 then none
    else do
      let (parts, rest) ← scan rest
      return (.char c :: parts, rest)

/-- The first half of a surrogate pair. -/
def isHighSurrogate (n : Nat) : Bool := 0xd800 ≤ n && n < 0xdc00

/-- The second half of a surrogate pair. -/
def isLowSurrogate (n : Nat) : Bool := 0xdc00 ≤ n && n < 0xe000

/-- The text that the parts spell, if every surrogate has its partner. -/
def text? : List Part → Option (List Char)
  | [] => some []
  | .char c :: rest => (text? rest).map (c :: ·)
  | .unit n :: .unit m :: rest =>
    -- two halves make one character beyond the basic plane
    if isHighSurrogate n && isLowSurrogate m then
      (text? rest).map (Char.ofNat (0x10000 + (n - 0xd800) * 0x400 + (m - 0xdc00)) :: ·)
    else if isHighSurrogate n || isLowSurrogate n then none
    else (text? (.unit m :: rest)).map (Char.ofNat n :: ·)
  | .unit n :: rest =>
    if isHighSurrogate n || isLowSurrogate n then none
    else (text? rest).map (Char.ofNat n :: ·)

end FanControl.Json.Quoted
