/-
  `Error` — everything that can go wrong, by cause, and its wording.

  Every constructor names one cause and carries what its message needs; the
  wording is in `Error.message` alone. `isRejection` singles out input that is
  refused on purpose, as opposed to work that failed.
-/
import FanControl.Duration
import FanControl.Error.Access
import FanControl.Gpio.Line
import FanControl.Text.Quoted

namespace FanControl

/-! ### Causes -/

/-- What failed on a line. -/
inductive GpioFault where
  | exporting (cause : AccessFault)
  | unexporting (cause : AccessFault)
  | direction (wanted : Direction) (cause : AccessFault)
  | edge (wanted : Edge) (cause : AccessFault)
  | writing (cause : AccessFault)
  | reading (cause : AccessFault)
  | opening (cause : AccessFault)
  | level (cause : AccessFault)
  | emptyValue
  | other (reason : String)
deriving DecidableEq, Repr

/-- What is wrong with the settings. -/
inductive ConfigFault where
  | tooManyButtons (count limit : Nat)
  | pinReused (pin : Pin)
  | zeroTimeout
  | zeroRefresh
  | unreadable (path : String) (cause : AccessFault)
  | periodBounds (lowest highest : Duration)
  | other (reason : String)
deriving DecidableEq, Repr

/-- What a device cannot do. -/
inductive Unsupported where
  | blinking (hz : UInt8)
  | other (what : String)
deriving DecidableEq, Repr

/-- Everything that can go wrong. -/
inductive Error where
  | io (cause : AccessFault)
  | attributeRead (path : String) (cause : AccessFault)
  | attributeWrite (path : String) (cause : AccessFault)
  | invalidAttributeValue (path value : String)
  | readOnlyAttribute (name : String)
  | gpio (pin : Pin) (fault : GpioFault)
  | registryFull (max : Nat)
  | duplicatePin (pin : Pin)
  | unknownButton (index : Nat)
  | channel (path : String) (cause : AccessFault)
  | readiness (cause : AccessFault)
  | daemonNotRunning (pipe : String)
  | invalidFrequency (value : Int64) (min max : UInt8)
  | invalidMode (text : String)
  | autoModeActive
  | unknownCommand (text : String)
  | config (fault : ConfigFault)
  /-- A text that is no JSON document of the form that is asked for. What is wrong with it, and
  where, is left out. -/
  | malformedJson
  | notSupported (what : Unsupported)
deriving DecidableEq, Repr

/-! ### Classes -/

namespace Error

/-- Input that is refused on purpose: it never touches the attributes. -/
def isRejection : Error → Bool
  | .invalidFrequency .. | .invalidMode _ | .autoModeActive | .unknownCommand _ => true
  | _ => false

/-- A change refused because automatic control is active. -/
def isPolicyViolation : Error → Bool
  | .autoModeActive => true
  | _ => false

/-- The fault of an access that lies behind an error. -/
def cause? : Error → Option AccessFault
  | .io f | .attributeRead _ f | .attributeWrite _ f | .channel _ f => some f
  | _ => none

end Error

/-! ### Wording -/

/-- What failed on a line, in words. -/
def GpioFault.message : GpioFault → String
  | .exporting f => "export failed: " ++ f.message
  | .unexporting f => "unexport failed: " ++ f.message
  | .direction d f => "set direction " ++ d.text ++ " failed: " ++ f.message
  | .edge e f => "set edge " ++ e.text ++ " failed: " ++ f.message
  | .writing f => "write failed: " ++ f.message
  | .reading f => "read failed: " ++ f.message
  | .opening f => "open value failed: " ++ f.message
  | .level f => "read level failed: " ++ f.message
  | .emptyValue => "value file is empty"
  | .other reason => reason

/-- What is wrong with the settings, in words. -/
def ConfigFault.message : ConfigFault → String
  | .tooManyButtons count limit =>
    Text.Decimal.ofNat count ++ " buttons configured, at most " ++ Text.Decimal.ofNat limit
      ++ " supported"
  | .pinReused pin => "GPIO pin " ++ pin.text ++ " bound to more than one button"
  | .zeroTimeout => "wait_timeout_ms must be positive"
  | .zeroRefresh => "refresh_every_ticks must be positive"
  | .unreadable path f => "cannot read " ++ path ++ ": " ++ f.message
  | .periodBounds lo hi =>
    "timer period bounds inverted: min " ++ lo.text ++ " > max " ++ hi.text
  | .other reason => reason

/-- What a device cannot do, in words. -/
def Unsupported.message : Unsupported → String
  | .blinking hz => "blink at " ++ Text.Decimal.ofNat hz.toNat ++ " Hz"
  | .other what => what

/-- An error in words. -/
def Error.message : Error → String
  | .io f => "I/O error: " ++ f.message
  | .attributeRead path f => "Failed to read attribute " ++ path ++ ": " ++ f.message
  | .attributeWrite path f => "Failed to write attribute " ++ path ++ ": " ++ f.message
  | .invalidAttributeValue path value =>
    "Attribute " ++ path ++ " holds an unexpected value: " ++ quoted value
  | .readOnlyAttribute name => "Attribute is read-only: " ++ name
  | .gpio pin fault => "GPIO " ++ pin.text ++ ": " ++ fault.message
  | .registryFull max => "Button registry is full (max " ++ Text.Decimal.ofNat max ++ " buttons)"
  | .duplicatePin pin => "GPIO pin " ++ pin.text ++ " is already bound to a button"
  | .unknownButton index => "No button registered at index " ++ Text.Decimal.ofNat index
  | .channel path f => "Command channel " ++ path ++ ": " ++ f.message
  | .readiness f => "Readiness wait failed: " ++ f.message
  | .daemonNotRunning pipe => "fanmgr daemon not running (" ++ pipe ++ ")"
  | .invalidFrequency value min max =>
    "Invalid frequency value: " ++ Text.Decimal.ofInt value.toInt ++ " (must be "
      ++ Text.Decimal.ofNat min.toNat ++ "-" ++ Text.Decimal.ofNat max.toNat ++ " Hz)"
  | .invalidMode text => "Invalid mode value: " ++ quoted text ++ " (must be 'auto' or 'manual')"
  | .autoModeActive => "Cannot set frequency in auto mode - switch to manual mode first"
  | .unknownCommand text => "Unknown command: " ++ quoted text
  | .config fault => "Configuration error: " ++ fault.message
  | .malformedJson => "Failed to parse JSON"
  | .notSupported what => "Operation not supported: " ++ what.message

/-- An error and, once more, the fault behind it, joined by colons. -/
def Error.report (e : Error) : String :=
  match e.cause? with
  | some f => e.message ++ ": " ++ f.message
  | none => e.message

end FanControl
