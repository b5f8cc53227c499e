/-
  `Line` — the vocabulary of a general-purpose input/output line.
-/
import FanControl.Text.Decimal

namespace FanControl

/-- The number of a line. -/
abbrev Pin := UInt32

/-- A pin number in base ten. -/
def Pin.text (pin : Pin) : String := Text.Decimal.ofNat pin.toNat

/-- Which way a line carries its signal. -/
inductive Direction where
  | input
  | output
deriving DecidableEq, Repr

/-- The word for a direction. -/
def Direction.text : Direction → String
  | .input => "in"
  | .output => "out"

/-- Which changes of a line are notified. -/
inductive Edge where
  | none
  | rising
  | falling
  | both
deriving DecidableEq, Repr

/-- The word for a choice of edges. -/
def Edge.text : Edge → String
  | .none => "none"
  | .rising => "rising"
  | .falling => "falling"
  | .both => "both"

end FanControl
