/-
  `Signal` — the signals that ask the daemon to end.
-/
namespace FanControl

/-- A signal that asks for an orderly end. -/
inductive Signal where
  | hup
  | int
  | quit
  | abrt
  | term
  | tstp
deriving DecidableEq, Repr

namespace Signal

/-- All of them, in the order in which their handlers are installed. -/
def all : List Signal := [.hup, .int, .quit, .abrt, .term, .tstp]

/-- The number of a signal. -/
def number : Signal → Nat
  | .hup => 1
  | .int => 2
  | .quit => 3
  | .abrt => 6
  | .term => 15
  | .tstp => 20

/-- The name of a signal. -/
def name : Signal → String
  | .hup => "HUP"
  | .int => "INT"
  | .quit => "QUIT"
  | .abrt => "ABRT"
  | .term => "TERM"
  | .tstp => "TSTP"

end Signal

/-- What happens to the wish to end: a signal raises it, and it can be taken back. -/
inductive ShutdownEvent where
  | raised (s : Signal)
  | cleared
deriving DecidableEq, Repr

/-- Whether the end is wished for after an event. -/
def ShutdownEvent.requested : ShutdownEvent → Bool
  | .raised _ => true
  | .cleared => false

/-- Whether the end is wished for, at first and after each event. -/
def shutdownHistory (events : List ShutdownEvent) : List Bool :=
  false :: events.map ShutdownEvent.requested

end FanControl
