import FanControl.Proofs.Refresh

/-!
# Changes have one shape

Commands and buttons ask for changes of the mode or of the frequency in four different ways, and
every one of them goes through the same three stages (`Change.perform_eq`): it consults at most
one attribute, decides on the answer alone, and carries the decision out. Only the last stage
writes, once, and only a write that succeeds is followed by a refresh of the panel.

What is peculiar to each of the four is in `Change.consults` and `Change.resolve`, which are plain
functions of texts; so a law about changes is a fact about these two and one about
`Decision.carryOut`.
-/

namespace FanControl

variable {ω : Type}

/-! ### Changes -/

/-- A change that is asked for. -/
inductive Change where
  | command (c : Command)
  | switchMode
  | faster
  | slower
deriving DecidableEq, Repr

/-- The attribute that was changed. -/
def Applied.target : Applied → Attribute
  | .frequency _ => .frequency
  | .mode _ => .mode

/-- The text of the new value. -/
def Applied.text : Applied → String
  | .frequency hz => Frequency.text hz
  | .mode m => m.text

/-- The change that a button asks for. -/
def ButtonId.change : ButtonId → Change
  | .k1 => .faster
  | .k2 => .slower
  | .k3 => .switchMode

namespace Change

/-- Makes a change. -/
def perform (k : Controller ω) : Change → Action (Console ω) Applied
  | .command c => k.apply c
  | .switchMode => do return .mode (← k.switchMode)
  | .faster => do return .frequency (← k.faster)
  | .slower => do return .frequency (← k.slower)

end Change

/-- A value that was decided on, and the record that its change is to leave. -/
structure Decision where
  result : Applied
  entry : LogEntry
deriving DecidableEq, Repr

/-- Writes the value; if that succeeds, the change is reported and the panel refreshed. -/
def Decision.carryOut (k : Controller ω) (d : Decision) : Action (Console ω) Applied := do
  Console.inWorld (k.store.write d.result.target d.result.text)
  k.announce d.entry
  return d.result

theorem Decision.carryOut_apply (k : Controller ω) (d : Decision) (c : Console ω) :
    d.carryOut k c =
      match Console.inWorld (k.store.write d.result.target d.result.text) c with
      | (.ok (), c) => (.ok d.result, k.refresh (c.report d.entry))
      | (.error e, c) => (.error e, c) := by
  rw [carryOut, Action.bind_apply]
  rcases Console.inWorld (k.store.write d.result.target d.result.text) c with ⟨_ | _, c⟩ <;> rfl

namespace Change

/-! ### The stages -/

/-- The attribute that a change depends on. -/
def consults : Change → Option Attribute
  | .command (.setFrequency _) => some .mode
  | .command _ => none
  | .switchMode => some .mode
  | .faster | .slower => some .frequency

/-- Reads the attribute that the change depends on, if there is one. -/
def consult (k : Controller ω) (x : Change) (c : Console ω) :
    Except Error String × Console ω :=
  match x.consults with
  | some attr => Console.inWorld (k.store.read attr) c
  | none => (.ok "", c)

/-- The mode that a text stands for. -/
def modeOf : String → Except Error Mode := AttributeStore.interpret .mode Mode.ofText?

/-- The frequency that a text stands for. -/
def frequencyOf : String → Except Error Int64 :=
  AttributeStore.interpret .frequency AttributeStore.integer?

/-- The decision on a frequency that is asked for. -/
def resolveFrequency (value : Int64) (mode : Except Error Mode) : Except Error Decision :=
  mode >>= fun
    | .auto => .error .autoModeActive
    | .manual => (Frequency.validate value).map fun hz => ⟨.frequency hz, .frequencySet hz⟩

/-- The decision on a step of the frequency. -/
def resolveStep (step : Int) (current : Except Error Int64) : Except Error Decision :=
  current.map fun current =>
    let hz := Frequency.clamp (Frequency.saturatingAdd current step)
    ⟨.frequency hz, .frequencyStepped current hz⟩

/-- The decision on the other mode, and the records of the way to it. A text that is no mode
counts as manual. -/
def resolveSwitch : Except Error Mode → Except Error Decision × List LogEntry
  | .ok mode => (.ok ⟨.mode mode.toggled, .modeToggled mode.toggled⟩, [])
  | .error (.invalidAttributeValue _ value) =>
    (.ok ⟨.mode .auto, .modeToggled .auto⟩, [.modeUnrecognized value])
  | .error e => (.error e, [])

/-- The decision on a change for an answer to what it consulted, and the records of the way to
it. -/
def resolve (x : Change) (answer : Except Error String) :
    Except Error Decision × List LogEntry :=
  match x with
  | .command (.setFrequency value) => (resolveFrequency value (answer >>= modeOf), [])
  | .command (.setMode mode) => (.ok ⟨.mode mode, .modeSet mode⟩, [])
  | .command (.unknown text) => (.error (.unknownCommand text), [])
  | .switchMode => resolveSwitch (answer >>= modeOf)
  | .faster => (resolveStep 1 (answer >>= frequencyOf), [])
  | .slower => (resolveStep (-1) (answer >>= frequencyOf), [])

/-- What follows a decision, or the lack of one. -/
def conclude (k : Controller ω) : Except Error Decision × List LogEntry →
    Action (Console ω) Applied
  | (decision, entries) => do
    Action.modify fun c => entries.foldl Console.report c
    (← decision).carryOut k

theorem conclude_ok (k : Controller ω) (d : Decision) (entries : List LogEntry) (c : Console ω) :
    conclude k (.ok d, entries) c = d.carryOut k (entries.foldl Console.report c) := rfl

theorem conclude_error (k : Controller ω) (e : Error) (entries : List LogEntry)
    (c : Console ω) :
    conclude k (.error e, entries) c = (.error e, entries.foldl Console.report c) := rfl

/-! ### The shape of a change -/

theorem inWorld_readMode (s : AttributeStore ω) (c : Console ω) :
    Console.inWorld s.readMode c =
      ((Console.inWorld (s.read .mode) c).1 >>= modeOf, (Console.inWorld (s.read .mode) c).2) :=
  Console.inWorld_meaning _ _ c

theorem inWorld_readFrequency (s : AttributeStore ω) (c : Console ω) :
    Console.inWorld s.readFrequency c =
      ((Console.inWorld (s.read .frequency) c).1 >>= frequencyOf,
        (Console.inWorld (s.read .frequency) c).2) :=
  Console.inWorld_meaning _ _ c

theorem apply_setFrequency (k : Controller ω) (value : Int64) (c : Console ω) :
    k.apply (.setFrequency value) c =
      conclude k
        (resolveFrequency value ((Console.inWorld (k.store.read .mode) c).1 >>= modeOf), [])
        (Console.inWorld (k.store.read .mode) c).2 := by
  rw [Controller.apply, Action.bind_apply, inWorld_readMode]
  generalize (Console.inWorld (k.store.read .mode) c).1 >>= modeOf = mode
  -- automatic mode and a failed reading end it; in manual mode the range decides
  rcases mode with e | _ | _
  · rfl
  · rfl
  · simp only [resolveFrequency]
    rcases Frequency.validate value with e | hz
    · rfl
    · rfl

/-- Changing the mode is carrying a decision out. -/
theorem perform_switchMode (k : Controller ω) :
    perform k .switchMode =
      (do let mode ← k.nextMode
          Decision.carryOut k ⟨.mode mode, .modeToggled mode⟩) := by
  rw [perform, Controller.switchMode]
  simp only [bind_assoc, pure_bind]
  rfl

theorem switchMode_eq (k : Controller ω) (c : Console ω) :
    perform k .switchMode c =
      conclude k (resolveSwitch ((Console.inWorld (k.store.read .mode) c).1 >>= modeOf))
        (Console.inWorld (k.store.read .mode) c).2 := by
  rw [perform_switchMode, Controller.nextMode]
  simp only [Action.bind_apply, Action.attempt, inWorld_readMode]
  generalize (Console.inWorld (k.store.read .mode) c).1 >>= modeOf = mode
  rcases mode with e | mode
  · -- only a text that is no mode counts as manual
    cases e <;> rfl
  · rfl

theorem nudge_eq (k : Controller ω) (step : Int) (c : Console ω) :
    (do return .frequency (← k.nudge step) : Action (Console ω) Applied) c =
      conclude k
        (resolveStep step ((Console.inWorld (k.store.read .frequency) c).1 >>= frequencyOf), [])
        (Console.inWorld (k.store.read .frequency) c).2 := by
  rw [Controller.nudge]
  simp only [bind_assoc, pure_bind]
  rw [Action.bind_apply, inWorld_readFrequency]
  generalize (Console.inWorld (k.store.read .frequency) c).1 >>= frequencyOf = current
  rcases current with e | current
  · rfl
  · rfl

/-- **Every change consults, decides and carries out**, in this order. -/
theorem perform_eq (k : Controller ω) (x : Change) (c : Console ω) :
    x.perform k c =
      conclude k (x.resolve (x.consult k c).1) (x.consult k c).2 := by
  rcases x with (value | mode | text) | _ | _ | _
  · exact apply_setFrequency k value c
  · rfl
  · rfl
  · exact switchMode_eq k c
  · exact nudge_eq k 1 c
  · exact nudge_eq k (-1) c

end Change

end FanControl
