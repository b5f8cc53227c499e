/-
  `Keypad` — up to three buttons on lines of their own.

  Registering takes a line, makes it an input that notifies both edges, and
  reads its level once; if that fails half way, the line is given back. Closing
  the keypad gives all lines back in the order of registration, whatever fails
  on the way.
-/
import FanControl.Button
import FanControl.Gpio.Lamp

namespace FanControl

/-- The buttons in the order of registration. -/
structure Keypad where
  gpio : Gpio
  buttons : List Button
deriving DecidableEq, Repr

namespace Keypad

/-- The number of buttons that can be registered. -/
def maxButtons : Nat := 3

/-- A keypad without buttons. -/
def empty (gpio : Gpio) : Keypad := ⟨gpio, []⟩

/-! ### Registration -/

/-- Prepares an exported line for a button and reads its level. -/
def prepare (gpio : Gpio) (pin : Pin) (id : ButtonId) (name : String) : Action Host Button := do
  gpio.setDirection pin .input
  gpio.setEdge pin .both
  let value ← gpio.openValue pin
  let level ← .query fun h => Button.levelOf pin value h.tree
  return ⟨pin, id, name, value, level⟩

/-- Takes a line for a button. -/
def acquire (gpio : Gpio) (pin : Pin) (id : ButtonId) (name : String) : Action Host Button := do
  gpio.exportPin pin
  match ← (prepare gpio pin id name).attempt with
  | .ok b => return b
  | .error e =>
    -- the first error is the one to report
    let _ ← (gpio.unexportPin pin).attempt
    .fail e

/-- Adds a button at the end. A full keypad is reported first, then a pin that is in use. -/
def register (k : Keypad) (pin : Pin) (id : ButtonId) (name : String) : Action Host Keypad :=
  if k.buttons.length ≥ maxButtons then .fail (.registryFull maxButtons)
  else if k.buttons.any (·.pin == pin) then .fail (.duplicatePin pin)
  else do
    let b ← acquire k.gpio pin id name
    return { k with buttons := k.buttons ++ [b] }

/-! ### Events -/

/-- The level of the button at an index right now. -/
def sense (k : Keypad) (index : Nat) (h : Host) : Except Error ButtonLevel :=
  match k.buttons[index]? with
  | some b => b.sense h
  | none => .error (.unknownButton index)

/-- Takes a reading of the button at an index into account; gives the event and the button it
happened to. A failed reading changes nothing. -/
def observe (k : Keypad) (index : Nat) (reading : Except Error ButtonLevel) :
    Except Error (ButtonEvent × Button × Keypad) :=
  match k.buttons[index]? with
  | none => .error (.unknownButton index)
  | some b =>
    match reading with
    | .error e => .error e
    | .ok level =>
      let (b, event) := b.observe level
      .ok (event, b, { k with buttons := k.buttons.set index b })

/-! ### Release -/

/-- Gives all lines back. -/
def close (k : Keypad) (h : Host) : List LogEntry × Host :=
  k.buttons.foldl (fun (entries, h) b =>
    let (released, h) := k.gpio.unexportPin b.pin h
    (entries ++ Lamp.complaint (.buttonUnexportFailed b.pin) released, h)) ([], h)

end Keypad

end FanControl
