/-
  `Daemon` — the event loop on a machine: how it is put together, how it waits,
  and how it gives back what it took.

  Putting it together takes the lamp, the buttons and the pipe, in this order. If
  a step fails, everything taken before is given back, and so it is when the
  daemon ends.
-/
import FanControl.EventLoop
import FanControl.Readiness
import FanControl.Settings

namespace FanControl

/-- A source of events. -/
inductive Source where
  | pipe
  | button (index : Nat)
deriving DecidableEq, Repr

/-- The event loop, and what it waits on. -/
structure Daemon where
  loop : EventLoop Host
  lamp : Option Lamp
  readiness : Readiness Source
  timeout : Duration

namespace Daemon

/-! ### Waiting -/

/-- How many events one wait hands out at most. -/
def maxEvents : Nat := 10

/-- The token of the pipe. -/
def pipeToken : UInt64 := 0xffffffffffffffff

/-- What is the case on a source: a button has an edge nobody has waited for, or the pipe holds
bytes. -/
def status (keypad : Keypad) (pipe : CommandPipe) (h : Host) : Source → Condition
  | .pipe =>
    match h.tree.pipe? pipe.node with
    | some p => p.condition .read
    | none => .idle
  | .button index =>
    match keypad.buttons[index]? with
    | some b =>
      if b.value ∈ h.edges then { Condition.idle with priority := true, error := true } else .idle
    | none => .idle

/-- How long one wait may last, in milliseconds. -/
def waitMillis (d : Daemon) : Nat := Readiness.waitMillis d.timeout

/-- What is the case on the sources of a daemon. -/
def currentStatus (d : Daemon) : Source → Condition :=
  status d.loop.keypad d.loop.pipe d.loop.console.world

/-- Watches the buttons and then the pipe. -/
def watch (keypad : Keypad) (pipe : CommandPipe) (h : Host) :
    Except Error (Readiness Source) := do
  let status := status keypad pipe h
  let r ← (List.range keypad.buttons.length).foldlM (fun r i =>
    r.add (if h.watchesValues then .live (.button i) else .unwatchable) .priority
      (UInt64.ofNat i) status) (Readiness.initial maxEvents)
  r.add (.live .pipe) .readable pipeToken status

/-! ### Releasing -/

/-- Gives the line of the lamp back. -/
def closeLamp : Option Lamp → Host → List LogEntry × Host
  | some lamp, h => lamp.close h
  | none, h => ([], h)

/-- One release after another. -/
def andThen (first second : Host → List LogEntry × Host) (h : Host) : List LogEntry × Host :=
  let (entries, h) := first h
  let (more, h) := second h
  (entries ++ more, h)

/-- Gives back what a daemon holds: the buttons, the pipe, the lamp. -/
def close (d : Daemon) : List LogEntry × Host :=
  andThen d.loop.keypad.close
    (andThen d.loop.pipe.close (closeLamp d.lamp)) d.loop.console.world

/-! ### Putting together -/

/-- The controller over the files. -/
def controller (attributes : AttributePaths) (lamp : Option (Bool → Action Host Unit)) :
    Controller Host := ⟨attributes.store, lamp⟩

/-- Joins what was taken into a daemon; if its sources cannot be watched, everything is given
back. -/
def assemble (k : Controller Host) (keypad : Keypad) (pipe : CommandPipe)
    (lamp : Option Lamp) (timeout : Duration) (refreshEvery : Nat) (h : Host) :
    Reported (Except Error Daemon) :=
  match watch keypad pipe h with
  | .error e =>
    -- a failure on the way does not keep the rest from being given back
    let (entries, h) := andThen (closeLamp lamp) (andThen pipe.close keypad.close) h
    (.error e, entries, h)
  | .ok readiness =>
    let loop : EventLoop Host :=
      { controller := k, keypad, pipe, console := .initial h
        refreshEvery := max 1 refreshEvery, refreshEvery_pos := by omega, ticks := 0 }
    (.ok { loop, lamp, readiness, timeout }, [], h)

/-- Takes the line of the lamp. -/
def openLamp (gpio : Gpio) : Option Pin → Action Host (Option Lamp)
  | some pin => do return some (← Lamp.acquire gpio pin)
  | none => return none

/-- Registers buttons in order, up to the first failure. -/
def registerAll (keypad : Keypad) : List ButtonSpec → Host →
    Option Error × Keypad × Host
  | [], h => (none, keypad, h)
  | b :: bs, h =>
    match keypad.register b.pin b.id b.name h with
    | (.ok keypad, h) => registerAll keypad bs h
    | (.error e, h) => (some e, keypad, h)

/-- Puts a daemon together as the settings say, and brings its panel up to date. -/
def build (s : Settings) (h : Host) : Reported (Except Error Daemon) :=
  let gpio : Gpio := ⟨s.gpioBase⟩
  match openLamp gpio s.ledPin h with
  | (.error e, h) => (.error e, [], h)
  | (.ok lamp, h) =>
    let log := Panel.header.map LogEntry.headerShown
    match registerAll (.empty gpio) s.buttons h with
    | (some e, keypad, h) =>
      let (entries, h) := andThen keypad.close (closeLamp lamp) h
      (.error e, log ++ entries, h)
    | (none, keypad, h) =>
      match CommandPipe.create s.pipe h with
      | (.error e, entries, h) =>
        let (more, h) := andThen keypad.close (closeLamp lamp) h
        (.error e, log ++ entries ++ more, h)
      | (.ok pipe, entries, h) =>
        let log := log ++ entries
        match assemble (controller s.attributes (lamp.map Lamp.switch)) keypad pipe lamp
            (.ofMillis s.waitMillis) s.refreshEvery.toNat h with
        | (.error e, entries, h) => (.error e, log ++ entries, h)
        | (.ok d, entries, h) =>
          (.ok { d with loop := d.loop.refresh }, log ++ entries, h)

/-! ### Running -/

/-- Reads a ready source. -/
def readSource (l : EventLoop Host) : Source → Reading × Host
  | .button index =>
    (.button index (l.keypad.sense index l.console.world), l.console.world)
  | .pipe =>
    let (chunks, h) := l.pipe.receive l.console.world
    (.pipe chunks, h)

/-- Notices the sources that became ready. -/
def notice (d : Daemon) : Daemon := { d with readiness := d.readiness.notice d.currentStatus }

/-- One wait and the turn after it. A wait in which nothing is ready ends as `otherwise` says. -/
def runOnce (d : Daemon) (otherwise : Wake Source) : Daemon :=
  let (ready, readiness) := d.readiness.wait d.currentStatus
  -- an empty answer means that the time was up or that a signal came
  let wake := if ready.isEmpty then otherwise else .ready (ready.map (·.watch.descriptor))
  { d with readiness, loop := d.loop.turn readSource wake }

/-- Adds a record to the log. -/
def report (d : Daemon) (entry : LogEntry) : Daemon :=
  { d with loop := { d.loop with console := d.loop.console.report entry } }

/-- Turn after turn until `stop` holds between two of them, at most `fuel` turns. -/
def turns (stop : Daemon → Bool) : (fuel : Nat) → Daemon → Daemon
  | 0, d => d
  | fuel + 1, d => if stop d then d else turns stop fuel (d.runOnce .timedOut)

/-- Runs until `stop` holds, and reports the start and the end. -/
def run (d : Daemon) (stop : Daemon → Bool) (fuel : Nat) : Daemon :=
  let d := d.report (.running d.loop.keypad.buttons.length d.loop.pipe.path)
  let d := turns stop fuel d
  d.report (.stopped d.loop.ticks)

end Daemon

end FanControl
