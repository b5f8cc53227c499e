/-
  `Document` — settings as a JSON document.

  A structure is an object with its fields as members, or an array of the fields
  in their order. Members with other keys are ignored, a field must not occur
  twice, and a field that does not occur has its default; only a button has to
  be complete.
-/
import FanControl.Json
import FanControl.Settings

namespace FanControl.Settings

/-! ### Fields of a structure -/

/-- The value of the field `key` among the members of an object: none if there is none, and a
failure if there are two. -/
def member? (key : String) (ms : List (Option (List Char) × Json)) : Option (Option Json) :=
  match ms.filter (·.1 == some key.toList) with
  | [] => some none
  | [(_, v)] => some (some v)
  | _ => none

/-- The values of the fields with these keys. An array gives them in order, the missing ones at
its end absent. -/
def fields? (keys : List String) : Json → Option (List (Option Json))
  | .object ms => if ms.any (·.1.isNone) then none else keys.mapM (member? · ms)
  | .array items =>
    if items.length ≤ keys.length then
      some (items.map some ++ List.replicate (keys.length - items.length) none)
    else none
  | _ => none

/-- The value of a field, or its default if it is absent. -/
def field? {α : Type} (default : α) (read : Json → Option α) : Option Json → Option α
  | some v => read v
  | none => some default

/-! ### Reading -/

/-- A natural number below `2 ^ 32`. -/
def word32? (v : Json) : Option UInt32 := (v.nat? 0x100000000).map UInt32.ofNat

/-- A natural number below `2 ^ 64`. -/
def word64? (v : Json) : Option UInt64 := (v.nat? 0x10000000000000000).map UInt64.ofNat

/-- A pin, or null for none. -/
def optionalPin? : Json → Option (Option Pin)
  | .null => some none
  | v => (word32? v).map some

/-- The name of a button key. -/
def buttonId? (v : Json) : Option ButtonId := v.choice?.bind ButtonId.ofText?

/-- The paths of the attributes. -/
def attributes? (v : Json) : Option AttributePaths :=
  match fields? ["mode", "temperature", "frequency"] v with
  | some [mode, temperature, frequency] => do
    let mode ← field? AttributePaths.standard.mode Json.text? mode
    let temperature ← field? AttributePaths.standard.temperature Json.text? temperature
    let frequency ← field? AttributePaths.standard.frequency Json.text? frequency
    return { mode, temperature, frequency }
  | _ => none

/-- A button; no field may be absent. -/
def button? (v : Json) : Option ButtonSpec :=
  match fields? ["pin", "id", "name"] v with
  | some [some pin, some id, some name] => do
    let pin ← word32? pin
    let id ← buttonId? id
    let name ← name.text?
    return { pin, id, name }
  | _ => none

/-- The buttons. -/
def buttons? : Json → Option (List ButtonSpec)
  | .array items => items.mapM button?
  | _ => none

/-- The keys of the settings, in the order of their fields. -/
def keys : List String :=
  ["attributes", "fifo_path", "gpio_base", "buttons", "status_led_pin", "wait_timeout_ms",
    "refresh_every_ticks"]

/-- The settings in a document. -/
def ofJson? (v : Json) : Option Settings :=
  match fields? keys v with
  | some [attributes, pipe, gpioBase, buttons, ledPin, waitMillis, refreshEvery] => do
    let attributes ← field? standard.attributes attributes? attributes
    let pipe ← field? standard.pipe Json.text? pipe
    let gpioBase ← field? standard.gpioBase Json.text? gpioBase
    let buttons ← field? standard.buttons buttons? buttons
    let ledPin ← field? standard.ledPin optionalPin? ledPin
    let waitMillis ← field? standard.waitMillis word64? waitMillis
    let refreshEvery ← field? standard.refreshEvery word32? refreshEvery
    return { attributes, pipe, gpioBase, buttons, ledPin, waitMillis, refreshEvery }
  | _ => none

/-- The settings in a text. -/
def ofText (s : String) : Except Error Settings :=
  match (Json.read? s).bind ofJson? with
  | some settings => .ok settings
  | none => .error .malformedJson

/-! ### Writing -/

/-- The paths of the attributes as a document. -/
def attributesJson (p : AttributePaths) : Json :=
  .ofMembers [("mode", .ofText p.mode), ("temperature", .ofText p.temperature),
    ("frequency", .ofText p.frequency)]

/-- A button as a document. -/
def buttonJson (b : ButtonSpec) : Json :=
  .ofMembers [("pin", .ofInt b.pin.toNat), ("id", .ofText b.id.text), ("name", .ofText b.name)]

/-- Settings as a document, all fields in their order. -/
def toJson (s : Settings) : Json :=
  .ofMembers
    [("attributes", attributesJson s.attributes),
      ("fifo_path", .ofText s.pipe),
      ("gpio_base", .ofText s.gpioBase),
      ("buttons", .array (s.buttons.map buttonJson)),
      ("status_led_pin", match s.ledPin with
        | some pin => .ofInt pin.toNat
        | none => .null),
      ("wait_timeout_ms", .ofInt s.waitMillis.toNat),
      ("refresh_every_ticks", .ofInt s.refreshEvery.toNat)]

/-- Settings as a text on one line. -/
def text (s : Settings) : String := s.toJson.compact

/-! ### Loading -/

/-- The settings in a file, or the standard ones if there is no such file. -/
def load (path : String) (t : FileTree) : Except Error Settings := do
  let s ← match t.readText path with
    | .ok content => ofText content
    -- no file is no fault
    | .error (.system .noEntry) => .ok standard
    | .error f => .error (.config (.unreadable path f))
  s.validate
  return s

end FanControl.Settings
