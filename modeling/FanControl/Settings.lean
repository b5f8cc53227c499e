/-
  `Settings` — what the daemon is told about the machine it runs on.

  Every field has a default. Settings are accepted if there are few enough
  buttons on pins of their own and if waiting and refreshing have a positive
  interval.
-/
import FanControl.Attribute.Files
import FanControl.Keypad

namespace FanControl

/-- A button as it is configured. -/
structure ButtonSpec where
  pin : Pin
  id : ButtonId
  name : String
deriving DecidableEq, Repr

/-- The settings of the daemon. -/
structure Settings where
  attributes : AttributePaths
  /-- The pipe on which commands arrive. -/
  pipe : String
  /-- The directory of the lines. -/
  gpioBase : String
  buttons : List ButtonSpec
  /-- The line of the lamp, if there is one. -/
  ledPin : Option Pin
  /-- How long one wait lasts at most, in milliseconds. -/
  waitMillis : UInt64
  /-- After how many turns the panel is refreshed. -/
  refreshEvery : UInt32
deriving DecidableEq, Repr

namespace Settings

/-! ### Defaults -/

/-- A button named after its key. -/
def keyButton (pin : Pin) (id : ButtonId) : ButtonSpec := ⟨pin, id, id.text⟩

/-- The settings without any file. -/
def standard : Settings where
  attributes := .standard
  pipe := "/tmp/fanmgr_cmd"
  gpioBase := "/sys/class/gpio"
  buttons := [keyButton 0 .k1, keyButton 2 .k2, keyButton 3 .k3]
  ledPin := some 362
  waitMillis := 1000
  refreshEvery := 5

/-- The file with the settings, if no other is named. -/
def standardFile : String := "/etc/fanmgr/fanmgrd.json"

/-- The environment variable that names another file. -/
def fileVariable : String := "FANMGR_CONFIG"

/-- The file with the settings: the one named, else the one in the environment, else the
standard one. -/
def file (named environment : Option String) : String :=
  (named.or environment).getD standardFile

/-! ### Acceptance -/

/-- The first pin of a list that occurs before. -/
def reusedPin? : List Pin → (seen : List Pin) → Option Pin
  | [], _ => none
  | p :: ps, seen => if p ∈ seen then some p else reusedPin? ps (p :: seen)

/-- Refuses settings that the daemon cannot work with; the first fault in the order of the tests
is reported. -/
def validate (s : Settings) : Except Error Unit :=
  if s.buttons.length > Keypad.maxButtons then
    .error (.config (.tooManyButtons s.buttons.length Keypad.maxButtons))
  else
    match reusedPin? (s.buttons.map (·.pin)) [] with
    | some pin => .error (.config (.pinReused pin))
    | none =>
      if s.waitMillis = 0 then .error (.config .zeroTimeout)
      else if s.refreshEvery = 0 then .error (.config .zeroRefresh)
      else .ok ()

end Settings

end FanControl
