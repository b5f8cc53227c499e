/-
  `Quoted` — a text between double quotes, unambiguous on one line.

  Quotes and backslashes are escaped, the usual controls have short forms, and
  every other unprintable character is written by its code point.
-/
import FanControl.Text.Unprintable

namespace FanControl.Text.Quoted

/-- A code point in braces, in hexadecimal. -/
def codePoint (c : Char) : List Char :=
  ['\\', 'u', '\x7b'] ++ Nat.toDigits 16 c.toNat ++ ['\x7d']

/-- What stands for one character. -/
def escape (c : Char) : List Char :=
  if c = '"' then ['\\', '"']
  else if c = '\\' then ['\\', '\\']
  else if c = '\n' then ['\\', 'n']
  else if c = '\r' then ['\\', 'r']
  else if c = '\t' then ['\\', 't']
  else if c.toNat = 0 then ['\\', '0']
  else if isUnprintable c then codePoint c
  else [c]

/-- The quoted form of a text. -/
def encode (s : List Char) : List Char := '"' :: s.flatMap escape ++ ['"']

end FanControl.Text.Quoted

namespace FanControl

/-- The quoted form of a text. -/
def quoted (s : String) : String := String.ofList (Text.Quoted.encode s.toList)

end FanControl
