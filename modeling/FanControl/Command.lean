/-
  `Command` — the lines of the control pipe and what they ask for.

  Reading never fails: a line outside the grammar is an unknown command, which
  keeps its text so that it can be reported. Line feeds and carriage returns at
  either end of a line do not belong to it.
-/
import FanControl.Frequency
import FanControl.Mode

namespace FanControl

/-- What a line asks for. -/
inductive Command where
  /-- A frequency in hertz, as requested; its range is checked when it is applied. -/
  | setFrequency (value : Int64)
  | setMode (mode : Mode)
  /-- Any other line. -/
  | unknown (text : String)
deriving DecidableEq, Repr

namespace Command

/-- What a frequency request starts with. -/
def frequencyHead : List Char := "set_freq ".toList

/-- What a mode request starts with. -/
def modeHead : List Char := "set_mode ".toList

/-- The longest line accepted, its line feed not counted. -/
def maxLineSize : Nat := 256

/-- The name of the kind of command. -/
def kind : Command → String
  | .setFrequency _ => "SetFrequency"
  | .setMode _ => "SetMode"
  | .unknown _ => "Unknown"

/-! ### Writing -/

/-- The characters of a command. -/
def chars : Command → List Char
  | .setFrequency value => frequencyHead ++ Text.Decimal.signed value.toInt
  | .setMode mode => modeHead ++ mode.text.toList
  | .unknown text => text.toList

/-- The text of a command. -/
def text (c : Command) : String := String.ofList c.chars

/-- The line of a command, its line feed included. -/
def line (c : Command) : String := String.ofList (c.chars ++ ['\n'])

/-! ### Reading -/

/-- Whether a character ends a line. -/
def isLineEnd (c : Char) : Bool := c == '\n' || c == '\r'

/-- The command in the body of a line, its line ends cut off. -/
def ofBody (body : List Char) : Command :=
  match Text.afterPrefix? frequencyHead body with
  | some rest => .setFrequency (Text.Decimal.leadingInt64 rest)
  | none =>
    match (Text.afterPrefix? modeHead body).bind fun rest =>
        Mode.ofText? (String.ofList (Text.trimEnd rest)) with
    | some mode => .setMode mode
    | none => .unknown (String.ofList body)

/-- The command on a line. -/
def parse (line : String) : Command := ofBody (Text.strip isLineEnd line.toList)

end Command

end FanControl
