/-
  `Log` — what the program reports about itself.

  A record says what happened; its level and its wording follow from that. The
  records of the levels below `info`, which only help to debug the program, are
  left out, and so is the time at which a record is made.
-/
import FanControl.Mode
import FanControl.Frequency
import FanControl.Panel
import FanControl.Text.Terminal

namespace FanControl

/-- How grave a record is. -/
inductive LogLevel where
  | info
  | warn
  | error
deriving DecidableEq, Repr

/-- The word for a level. -/
def LogLevel.text : LogLevel → String
  | .info => "INFO"
  | .warn => "WARN"
  | .error => "ERROR"

/-- Something worth reporting. -/
inductive LogEntry where
  | headerShown (line : String)
  | frequencySet (hz : UInt8)
  | modeSet (mode : Mode)
  | modeToggled (mode : Mode)
  | frequencyStepped (start : Int64) (hz : UInt8)
  | modeUnrecognized (value : String)
  | buttonActionFailed (button : String) (error : Error)
  | rowUpdated (row : Row) (text : String)
  | ledSwitchFailed (on : Bool) (error : Error)
  | ledOffFailed (pin : Pin) (error : Error)
  | ledUnexportFailed (pin : Pin) (error : Error)
  | buttonUnexportFailed (pin : Pin) (error : Error)
  | buttonReadFailed (index : Nat) (error : Error)
  | pipeReady (path : String)
  | pipeRemovalFailed (path : String) (cause : AccessFault)
  | lineTooLong (limit : Nat)
  | pipeReadFailed (error : Error)
  | commandRefused (line : String) (error : Error)
  | commandRejected (line : String) (error : Error)
  | commandFailed (line : String) (error : Error)
  | running (buttons : Nat) (pipe : String)
  | stopped (ticks : Nat)
  | daemonFailed (error : Error)
deriving DecidableEq, Repr

namespace LogEntry

/-- How grave it is. -/
def level : LogEntry → LogLevel
  | .modeUnrecognized .. | .ledSwitchFailed .. | .ledOffFailed .. | .ledUnexportFailed ..
  | .buttonUnexportFailed .. | .pipeRemovalFailed .. | .lineTooLong .. | .commandRefused ..
  | .commandRejected .. => .warn
  | .buttonActionFailed .. | .buttonReadFailed .. | .pipeReadFailed .. | .commandFailed ..
  | .daemonFailed .. => .error
  | _ => .info

/-- A named value at the end of a record. -/
def field (name value : String) : String := " " ++ name ++ "=" ++ value

/-- What happened, in words. -/
def message : LogEntry → String
  | .headerShown line => line
  | .frequencySet hz => "frequency set" ++ field "frequency" (Frequency.text hz)
  | .modeSet mode => "mode set" ++ field "mode" mode.text
  | .modeToggled mode => "mode toggled" ++ field "mode" mode.text
  | .frequencyStepped start hz =>
    "frequency stepped" ++ field "from" (Text.Decimal.ofInt start.toInt)
      ++ field "frequency" (Frequency.text hz)
  | .modeUnrecognized value =>
    "unrecognized stored mode, switching to auto" ++ field "value" value
  | .buttonActionFailed button e =>
    "button action failed" ++ field "button" button ++ field "error" e.message
  | .rowUpdated row text => "display updated" ++ field "row" row.name ++ field "text" text
  | .ledSwitchFailed on e =>
    "failed to switch status LED " ++ (if on then "on" else "off") ++ field "error" e.message
  | .ledOffFailed pin e =>
    "failed to switch status LED off" ++ field "pin" pin.text ++ field "error" e.message
  | .ledUnexportFailed pin e =>
    "failed to unexport status LED" ++ field "pin" pin.text ++ field "error" e.message
  | .buttonUnexportFailed pin e =>
    "failed to unexport button pin" ++ field "pin" pin.text ++ field "error" e.message
  | .buttonReadFailed index e =>
    "button read failed" ++ field "index" (Text.Decimal.ofNat index) ++ field "error" e.message
  | .pipeReady path => "command pipe ready" ++ field "path" path
  | .pipeRemovalFailed path cause =>
    "failed to remove command pipe" ++ field "path" path ++ field "error" cause.message
  | .lineTooLong limit =>
    "command line too long, discarding" ++ field "max" (Text.Decimal.ofNat limit)
  | .pipeReadFailed e => "command pipe read failed" ++ field "error" e.message
  | .commandRefused line e =>
    "command refused by auto mode" ++ field "line" line ++ field "error" e.message
  | .commandRejected line e =>
    "command rejected" ++ field "line" line ++ field "error" e.message
  | .commandFailed line e => "command failed" ++ field "line" line ++ field "error" e.message
  | .running buttons pipe =>
    "dispatcher running" ++ field "buttons" (Text.Decimal.ofNat buttons) ++ field "pipe" pipe
  | .stopped ticks =>
    "shutdown requested, dispatcher stopped" ++ field "ticks" (Text.Decimal.ofNat ticks)
  | .daemonFailed e => "fanmgrd failed: " ++ e.message

/-- The level and the message on one line. -/
def text (r : LogEntry) : String := r.level.text ++ " " ++ r.message

/-- The same for a terminal, with an end of line. What was read from files and arguments may stand
in a record, and must not act on the terminal. -/
def printed (r : LogEntry) : String :=
  String.ofList (Text.Terminal.tame r.text.toList) ++ "\n"

end LogEntry

end FanControl
