/-
  `Panel` — a text display of three rows, redrawn only when a row changes.

  A row shows a fixed head and a value, cut to the width of the display. The
  panel counts the changes it has shown.
-/
import FanControl.Text.Decimal

namespace FanControl

/-- A row of the display. -/
inductive Row where
  | temperature
  | frequency
  | mode
deriving DecidableEq, Repr

namespace Row

/-- The name of a row. -/
def name : Row → String
  | .temperature => "Temperature"
  | .frequency => "Frequency"
  | .mode => "Mode"

/-- What a row starts with. -/
def head : Row → String
  | .temperature => "Temp: "
  | .frequency => "Freq: "
  | .mode => "Mode: "

/-- What follows the value in a row. -/
def unit : Row → String
  | .frequency => "Hz"
  | _ => ""

end Row

/-- A value pushed to a row. -/
structure Push where
  row : Row
  value : String
deriving DecidableEq, Repr

/-- What the display shows. -/
structure Panel where
  temperature : String
  frequency : String
  mode : String
  /-- The number of changes shown so far. It has no bound here; a word of 64 bits shows the same
  number for fewer than 2^64 changes. -/
  redraws : Nat
deriving DecidableEq, Repr

namespace Panel

/-- The width of the display in characters. -/
def columns : Nat := 16

/-- What a row shows before its first value. -/
def placeholder : String := "N/A"

/-- The lines above the rows. -/
def header : List String := ["CSEL1a - SP.25", "  Fan Manager", "--------------"]

/-- The text of a row, cut to the width of the display. -/
def fit (row : Row) (value : String) : String :=
  String.ofList ((row.head ++ value).toList.take columns)

/-- The text that a push asks for. -/
def shown (p : Push) : String := fit p.row (p.value ++ p.row.unit)

/-- A display without any value. -/
def initial : Panel :=
  ⟨Row.temperature.head ++ placeholder, Row.frequency.head ++ placeholder,
    Row.mode.head ++ placeholder, 0⟩

/-- The text in a row. -/
def row (p : Panel) : Row → String
  | .temperature => p.temperature
  | .frequency => p.frequency
  | .mode => p.mode

/-- Puts a text into a row. -/
def setRow (p : Panel) (row : Row) (text : String) : Panel :=
  match row with
  | .temperature => { p with temperature := text }
  | .frequency => { p with frequency := text }
  | .mode => { p with mode := text }

/-- Whether a push changes its row. -/
def changes (p : Panel) (push : Push) : Bool := p.row push.row != shown push

/-- Shows a value; a row that would not change is left alone. -/
def present (p : Panel) (push : Push) : Panel :=
  if p.changes push then
    { p.setRow push.row (shown push) with redraws := p.redraws + 1 }
  else p

end Panel

end FanControl
