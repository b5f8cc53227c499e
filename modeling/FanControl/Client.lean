/-
  `Client` — the commands as a user gives them, and the state as a user sees it.

  A command is checked before it is sent: its value has to be one that the daemon
  accepts, and a frequency is of no use in automatic mode. The daemon decides in
  the end; a mode that cannot be read does not keep a command from being sent.
-/
import FanControl.Attribute
import FanControl.Command
import FanControl.Host
import FanControl.Json

namespace FanControl.Client

/-! ### Commands -/

/-- The command for a frequency: the integer that the text starts with, if it is in range. -/
def frequencyRequest (raw : String) : Except Error Command := do
  let hz ← Frequency.validate (Text.Decimal.leadingInt64 raw.toList)
  return .setFrequency (Int64.ofInt hz.toNat)

/-- The command for a mode: its word, between white space. -/
def modeRequest (raw : String) : Except Error Command := do
  return .setMode (← Mode.read (String.ofList (Text.trim raw.toList)))

/-- Refuses to go on in automatic mode. -/
def requireManual {ω : Type} (s : AttributeStore ω) : Action ω Unit := do
  match ← s.readMode.attempt with
  | .ok .auto => .fail .autoModeActive
  | _ => return ()

/-- The error for a pipe that could not be used. A pipe that is missing, or that nobody reads,
means that the daemon is not running. -/
def deliveryError (path : String) : AccessFault → Error
  | .system .noEntry | .system .noDevice => .daemonNotRunning path
  | f => .channel path f

/-- Sends a command in one write, which must be taken whole. -/
def send (path : String) (c : Command) : Action Host Unit := fun h =>
  let bytes := bytesOfText c.line
  match h.tree.deliver path bytes with
  | .error f => (.error (deliveryError path f), h)
  | .ok (taken, t) =>
    (if taken = bytes.length then .ok () else .error (.channel path .shortWrite),
      { h with tree := t })

end FanControl.Client

namespace FanControl

/-! ### Status -/

/-- What the attributes show; what cannot be read is absent. -/
structure Status where
  mode : Option Mode
  temperature : Option Int64
  frequency : Option Int64
deriving DecidableEq, Repr

namespace Status

/-- Reads all attributes. -/
def read {ω : Type} (s : AttributeStore ω) (w : ω) : Status × ω :=
  let (mode, w) := s.readMode w
  let (temperature, w) := s.readTemperature w
  let (frequency, w) := s.readFrequency w
  (⟨mode.toOption, temperature.toOption, frequency.toOption⟩, w)

/-- A number in base ten, or the mark for an absent one. -/
def number : Option Int64 → String
  | some n => Text.Decimal.ofInt n.toInt
  | none => "N/A"

/-- The state on three lines. -/
def render (s : Status) : String :=
  "Mode:        " ++ (s.mode.map Mode.text).getD "N/A"
    ++ "\nTemperature: " ++ number s.temperature ++ " C"
    ++ "\nFrequency:   " ++ number s.frequency ++ " Hz"

/-- The state as a document. -/
def toJson (s : Status) : Json :=
  let number : Option Int64 → Json
    | some n => .ofInt n.toInt
    | none => .null
  .ofMembers
    [("mode", match s.mode with
        | some m => .ofText m.text
        | none => .null),
      ("temperature", number s.temperature),
      ("frequency", number s.frequency)]

end Status

end FanControl
