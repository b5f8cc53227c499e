/-
  `Terminal` — texts from elsewhere, made safe to show on a terminal.

  The characters with which a text could move the cursor, ring the bell or start
  a control sequence are written by their code points. Tabs and the ends of lines
  stay, and so does the backslash: the result is there to be looked at, and two
  texts may look the same.
-/
import FanControl.Text.Quoted

namespace FanControl.Text.Terminal

/-- The ASCII characters that act on a terminal: bell, backspace, form feed, escape and delete. -/
def controls : List Char := ['\x07', '\x08', '\x0c', '\x1b', '\x7f']

/-- The controls U+0080 to U+009F, each short for an escape and a letter. -/
def isShortSequence (c : Char) : Bool := 0x80 ≤ c.toNat && c.toNat ≤ 0x9f

/-- Two hexadecimal digits after a backslash and an `x`. -/
def twoDigits (c : Char) : List Char :=
  ['\\', 'x', Nat.digitChar (c.toNat / 16), Nat.digitChar (c.toNat % 16)]

/-- What stands for one character. -/
def escape (c : Char) : List Char :=
  if c ∈ controls then twoDigits c
  else if isShortSequence c then Quoted.codePoint c
  else [c]

/-- A text that leaves the terminal alone. -/
def tame (s : List Char) : List Char := s.flatMap escape

end FanControl.Text.Terminal
