/-
  `Button` — a push button on a line, and its debouncing.

  A button remembers the last level read. A reading that differs from it is a
  press or a release; an equal one is no event.
-/
import FanControl.Gpio

namespace FanControl

/-- Which button it is. -/
inductive ButtonId where
  | k1
  | k2
  | k3
deriving DecidableEq, Repr

/-- The name of a button. -/
def ButtonId.text : ButtonId → String
  | .k1 => "K1"
  | .k2 => "K2"
  | .k3 => "K3"

/-- The button of a name. -/
def ButtonId.ofText? (s : String) : Option ButtonId :=
  if s = "K1" then some .k1 else if s = "K2" then some .k2 else if s = "K3" then some .k3
  else none

/-- Whether a button is down. -/
inductive ButtonLevel where
  | pressed
  | released
deriving DecidableEq, Repr

namespace ButtonLevel

/-- The word for a level. -/
def text : ButtonLevel → String
  | .pressed => "Pressed"
  | .released => "Released"

/-- The level that the first byte of a value file stands for. -/
def ofByte (b : UInt8) : ButtonLevel := if b.toNat = '1'.toNat then .pressed else .released

end ButtonLevel

/-- What a reading of a button means. -/
inductive ButtonEvent where
  | press
  | release
  | unchanged
deriving DecidableEq, Repr

/-- The word for an event. -/
def ButtonEvent.text : ButtonEvent → String
  | .press => "PressDetected"
  | .release => "ReleaseDetected"
  | .unchanged => "NoChange"

/-- A registered button. -/
structure Button where
  pin : Pin
  id : ButtonId
  name : String
  /-- The open value file of its line. -/
  value : NodeId
  /-- The last level read. -/
  level : ButtonLevel
deriving DecidableEq, Repr

namespace Button

/-- The level in an open value file, read from its start. -/
def levelOf (pin : Pin) (value : NodeId) (t : FileTree) : Except Error ButtonLevel :=
  match t.firstByte value with
  | .ok (some b) => .ok (.ofByte b)
  | .ok none => .error (.gpio pin .emptyValue)
  | .error f => .error (.gpio pin (.level f))

/-- The level of a button right now. -/
def sense (b : Button) (h : Host) : Except Error ButtonLevel := levelOf b.pin b.value h.tree

/-- The button after a reading, and what the reading means. -/
def observe (b : Button) (level : ButtonLevel) : Button × ButtonEvent :=
  if level = b.level then (b, .unchanged)
  else
    ({ b with level }, match level with
      | .pressed => .press
      | .released => .release)

end Button

end FanControl
