/-
  `Lamp` — a lamp on a line of its own.

  Opening a lamp takes the line and makes it a dark output; if that fails half
  way, the line is given back. Closing it switches the lamp off and gives the
  line back, whatever fails on the way.
-/
import FanControl.Gpio
import FanControl.Log

namespace FanControl

/-- A lamp, and the state it was last switched to. -/
structure Lamp where
  gpio : Gpio
  pin : Pin
  on : Bool
deriving DecidableEq, Repr

namespace Lamp

/-- Takes a line for a lamp and switches it off. -/
def acquire (gpio : Gpio) (pin : Pin) : Action Host Lamp := do
  gpio.exportPin pin
  match ← (do gpio.setDirection pin .output; gpio.write pin false : Action Host Unit).attempt with
  | .ok () => return ⟨gpio, pin, false⟩
  | .error e =>
    let _ ← (gpio.unexportPin pin).attempt
    .fail e

/-- Switches the lamp. -/
def switch (l : Lamp) (on : Bool) : Action Host Unit := l.gpio.write l.pin on

/-- The lamp after it was switched. -/
def switched (l : Lamp) (on : Bool) : Action Host Lamp := do
  l.switch on
  return { l with on }

/-- A plain line cannot blink on its own. -/
def blink (_ : Lamp) (hz : UInt8) : Except Error Unit := .error (.notSupported (.blinking hz))

/-- The report of a result, if it is an error. -/
def complaint (entry : Error → LogEntry) : Except Error Unit → List LogEntry
  | .ok () => []
  | .error e => [entry e]

/-- Switches the lamp off and gives its line back. -/
def close (l : Lamp) (h : Host) : List LogEntry × Host :=
  let (dark, h) := l.switch false h
  let (released, h) := l.gpio.unexportPin l.pin h
  (complaint (.ledOffFailed l.pin) dark ++ complaint (.ledUnexportFailed l.pin) released, h)

end Lamp

end FanControl
