/-
  `Attribute` — the three attributes of the fan controller and typed access to
  them.

  A store is anything that can read and write the attributes as text; it may
  answer as it likes, since the kernel changes the values on its own. Typed
  access turns texts into modes and numbers and back: writing is canonical,
  reading refuses what is not a mode word or not a number in range.
-/
import FanControl.Action
import FanControl.Mode
import FanControl.Frequency

namespace FanControl

/-! ### Attributes -/

/-- What the fan controller shows. -/
inductive Attribute where
  | mode
  | temperature
  | frequency
deriving DecidableEq, Repr

namespace Attribute

/-- The name of an attribute. -/
def name : Attribute → String
  | .mode => "mode"
  | .temperature => "temperature"
  | .frequency => "frequency"

/-- Whether an attribute can be set. -/
def isWritable : Attribute → Bool
  | .temperature => false
  | _ => true

/-- All attributes. -/
def all : List Attribute := [.mode, .temperature, .frequency]

end Attribute

/-! ### Stores -/

/-- Access to the attributes as texts, over a world `ω`. -/
structure AttributeStore (ω : Type) where
  read : Attribute → Action ω String
  write : Attribute → String → Action ω Unit

namespace AttributeStore

variable {ω : Type} (s : AttributeStore ω)

/-- What a text stands for, or an error that names the attribute and shows the text. -/
def interpret {α : Type} (attr : Attribute) (meaning : String → Option α) (raw : String) :
    Except Error α :=
  match meaning raw with
  | some a => .ok a
  | none => .error (.invalidAttributeValue attr.name raw)

/-- The integer that a text holds between white space. -/
def integer? (raw : String) : Option Int64 :=
  Text.Decimal.readInt64? (Text.trim raw.toList)

/-- The operating mode. -/
def readMode : Action ω Mode := do
  interpret .mode Mode.ofText? (← s.read .mode)

/-- Sets the operating mode. -/
def writeMode (mode : Mode) : Action ω Unit := s.write .mode mode.text

/-- The frequency in hertz. -/
def readFrequency : Action ω Int64 := do
  interpret .frequency integer? (← s.read .frequency)

/-- Sets the frequency. -/
def writeFrequency (hz : UInt8) : Action ω Unit := s.write .frequency (Frequency.text hz)

/-- The temperature in degrees Celsius. -/
def readTemperature : Action ω Int64 := do
  interpret .temperature integer? (← s.read .temperature)

end AttributeStore

end FanControl
