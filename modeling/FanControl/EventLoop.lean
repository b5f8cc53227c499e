/-
  `EventLoop` — buttons and the command pipe drive the controller.

  A turn starts when a wait ends. A wait that is interrupted is no turn. All
  sources that are ready are handled in order, whatever fails on the way, and the
  panel is refreshed once after them; and it is refreshed after every so many
  turns. A wait that fails would end the run; `Readiness` has no such wait.
-/
import FanControl.Keypad
import FanControl.CommandPipe
import FanControl.Controller

namespace FanControl

/-- How the handling of a line ended. -/
inductive Verdict where
  | applied
  /-- Automatic mode forbids it. -/
  | refused
  /-- The line asks for nothing that can be done. -/
  | rejected
  /-- It should have been done, and could not. -/
  | failed
deriving DecidableEq, Repr

/-- Something that a ready source gives when it is read. -/
inductive Reading where
  /-- The bytes in the pipe, in pieces. -/
  | pipe (chunks : List (List UInt8))
  /-- The pieces that came before the pipe could not be read any further, and why it could not. -/
  | brokenPipe (chunks : List (List UInt8)) (cause : AccessFault)
  /-- The level of a button, or why it cannot be read. -/
  | button (index : Nat) (level : Except Error ButtonLevel)

/-- How a wait ended. -/
inductive Wake (σ : Type) where
  | timedOut
  | interrupted
  | ready (sources : List σ)

/-- The state of the loop. -/
structure EventLoop (ω : Type) where
  controller : Controller ω
  keypad : Keypad
  pipe : CommandPipe
  console : Console ω
  /-- After how many turns the panel is refreshed. -/
  refreshEvery : Nat
  refreshEvery_pos : 0 < refreshEvery
  /-- The number of turns so far. It has no bound here; a word of 64 bits shows the same number
  for fewer than 2^64 turns. -/
  ticks : Nat

namespace EventLoop

variable {ω σ : Type}

/-! ### Lines -/

/-- How a result of carrying out a command is classified and reported. -/
def verdictOn (line : String) : Except Error Applied → Verdict × List LogEntry
  | .ok _ => (.applied, [])
  | .error e =>
    if e.isPolicyViolation then (.refused, [.commandRefused line e])
    else if e.isRejection then (.rejected, [.commandRejected line e])
    else (.failed, [.commandFailed line e])

/-- Handles a line. -/
def obey (k : Controller ω) (line : String) (c : Console ω) : Verdict × Console ω :=
  let (result, c) := k.apply (.parse line) c
  let (outcome, entries) := verdictOn line result
  (outcome, entries.foldl Console.report c)

/-! ### Sources -/

/-- Handles pieces of the command stream. All of them are read before the first line is
handled. -/
def handleChunks (l : EventLoop ω) (chunks : List (List UInt8)) : EventLoop ω :=
  let (framed, pipe) := l.pipe.feed chunks
  let console := (CommandPipe.complaints framed).foldl Console.report l.console
  { l with
    pipe
    console := (CommandPipe.lines framed).foldl
      (fun c line => (obey l.controller line c).2) console }

/-- Handles pieces of the command stream behind which the pipe could not be read. They count for
what follows on the pipe, but the lines that they complete are lost. -/
def handleBrokenPipe (l : EventLoop ω) (chunks : List (List UInt8)) (cause : AccessFault) :
    EventLoop ω :=
  let (framed, pipe) := l.pipe.feed chunks
  let console := (CommandPipe.complaints framed).foldl Console.report l.console
  { l with pipe, console := console.report (.pipeReadFailed (.channel l.pipe.path cause)) }

/-- Handles a reading of a button. -/
def handleLevel (l : EventLoop ω) (index : Nat) (level : Except Error ButtonLevel) :
    EventLoop ω :=
  match l.keypad.observe index level with
  | .ok (event, b, keypad) =>
    { l with keypad, console := l.controller.notify event b l.console }
  | .error e => { l with console := l.console.report (.buttonReadFailed index e) }

/-- Handles what a ready source gave. -/
def handle (l : EventLoop ω) : Reading → EventLoop ω
  | .pipe chunks => l.handleChunks chunks
  | .brokenPipe chunks cause => l.handleBrokenPipe chunks cause
  | .button index level => l.handleLevel index level

/-! ### Turns -/

/-- Brings the panel up to date. -/
def refresh (l : EventLoop ω) : EventLoop ω :=
  { l with console := l.controller.refresh l.console }

/-- Counts a turn, and refreshes the panel if it is time. -/
def tick (l : EventLoop ω) : EventLoop ω :=
  let l := { l with ticks := l.ticks + 1 }
  if l.ticks % l.refreshEvery = 0 then l.refresh else l

/-- Another world behind the front. -/
def withWorld (l : EventLoop ω) (w : ω) : EventLoop ω :=
  { l with console := { l.console with world := w } }

/-- Reads a ready source and handles what it gave. A source is read only when the sources before
it have been handled. -/
def serve (read : EventLoop ω → σ → Reading × ω) (l : EventLoop ω) (source : σ) : EventLoop ω :=
  let (reading, w) := read l source
  (l.withWorld w).handle reading

/-- What happens after a wait; `read` reads a ready source. -/
def turn (read : EventLoop ω → σ → Reading × ω) (l : EventLoop ω) : Wake σ → EventLoop ω
  | .interrupted => l
  | .timedOut => l.tick
  | .ready sources => (sources.foldl (serve read) l).refresh.tick

/-- What happens after a wait whose readings are known. -/
def step (l : EventLoop ω) (wake : Wake Reading) : EventLoop ω :=
  l.turn (fun l reading => (reading, l.console.world)) wake

end EventLoop

end FanControl
