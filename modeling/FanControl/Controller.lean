/-
  `Controller` — carries commands and button presses out.

  Commands are gated: in automatic mode no frequency is accepted, and a frequency
  has to be in range. Buttons are not gated, and they stop at the ends of the
  range. Every change that succeeds is reported and followed by a refresh of the
  panel; a change that fails leaves the panel alone.
-/
import FanControl.Attribute
import FanControl.Button
import FanControl.Command
import FanControl.Console

namespace FanControl

/-- What a command changed. -/
inductive Applied where
  | frequency (hz : UInt8)
  | mode (mode : Mode)
deriving DecidableEq, Repr

/-- Access to the attributes and, if there is one, to the lamp. -/
structure Controller (ω : Type) where
  store : AttributeStore ω
  lamp : Option (Bool → Action ω Unit)

namespace Controller

variable {ω : Type} (k : Controller ω)

/-! ### The panel -/

/-- The value for a row: the mode as stored, and numbers in base ten. A frequency that is not
positive has no value to show. -/
def reading : Row → Action ω (Option String)
  | .mode => do return some (← k.store.read .mode)
  | .temperature => do return some (Text.Decimal.ofInt (← k.store.readTemperature).toInt)
  | .frequency => do
    let hz := (← k.store.readFrequency).toInt
    return if 0 < hz then some (Text.Decimal.ofInt hz) else none

/-- Pushes the value for a row, if it can be read. -/
def refreshRow (row : Row) (c : Console ω) : Console ω :=
  match Console.inWorld (k.reading row) c with
  | (.ok (some value), c) => c.present ⟨row, value⟩
  | (_, c) => c

/-- Brings the panel up to date: mode, temperature, frequency. -/
def refresh (c : Console ω) : Console ω :=
  [Row.mode, .temperature, .frequency].foldl (fun c row => k.refreshRow row c)
    { c with refreshes := c.refreshes + 1 }

/-- Reports a change and refreshes the panel. -/
def announce (entry : LogEntry) : Action (Console ω) Unit :=
  .modify fun c => k.refresh (c.report entry)

/-! ### Changes -/

/-- Carries a command out. The mode is looked at before the value. -/
def apply : Command → Action (Console ω) Applied
  | .setFrequency value => do
    -- the mode first, so that automatic mode wins over a bad value
    match ← Console.inWorld k.store.readMode with
    | .auto => .fail .autoModeActive
    | .manual =>
      let hz ← Frequency.validate value
      Console.inWorld (k.store.writeFrequency hz)
      k.announce (.frequencySet hz)
      return .frequency hz
  | .setMode mode => do
    Console.inWorld (k.store.writeMode mode)
    k.announce (.modeSet mode)
    return .mode mode
  | .unknown text => .fail (.unknownCommand text)

/-- The mode to change to: the other one, or automatic control if the stored text is no mode. -/
def nextMode : Action (Console ω) Mode := do
  match ← (Console.inWorld k.store.readMode).attempt with
  | .ok mode => return mode.toggled
  | .error (.invalidAttributeValue _ value) =>
    .modify (·.report (.modeUnrecognized value))
    return .auto
  | .error e => .fail e

/-- Changes the mode to the other one. -/
def switchMode : Action (Console ω) Mode := do
  let mode ← k.nextMode
  Console.inWorld (k.store.writeMode mode)
  k.announce (.modeToggled mode)
  return mode

/-- Moves the frequency by a step, as far as the range allows. -/
def nudge (step : Int) : Action (Console ω) UInt8 := do
  let current ← Console.inWorld k.store.readFrequency
  -- the step itself must not wrap, whatever is stored
  let hz := Frequency.clamp (Frequency.saturatingAdd current step)
  Console.inWorld (k.store.writeFrequency hz)
  k.announce (.frequencyStepped current hz)
  return hz

/-- One hertz more. -/
def faster : Action (Console ω) UInt8 := k.nudge 1

/-- One hertz less. -/
def slower : Action (Console ω) UInt8 := k.nudge (-1)

/-! ### Buttons -/

/-- What pressing a button does. -/
def pressAction : ButtonId → Action (Console ω) Unit
  | .k1 => do let _ ← k.faster
  | .k2 => do let _ ← k.slower
  | .k3 => do let _ ← k.switchMode

/-- Lets the lamp follow the buttons that are held. -/
def followHeld (change : Indicator → Indicator × Option Bool) (c : Console ω) : Console ω :=
  match k.lamp with
  | some lamp => Console.indicate lamp change c
  | none => c

/-- A button was pressed. -/
def press (b : Button) (c : Console ω) : Console ω :=
  match k.pressAction b.id (k.followHeld Indicator.pressed c) with
  | (.ok (), c) => c
  | (.error e, c) => c.report (.buttonActionFailed b.name e)

/-- A button was released. -/
def release (c : Console ω) : Console ω := k.followHeld Indicator.released c

/-- An event of a button. -/
def notify (event : ButtonEvent) (b : Button) (c : Console ω) : Console ω :=
  match event with
  | .press => k.press b c
  | .release => k.release c
  | .unchanged => c

end Controller

end FanControl
