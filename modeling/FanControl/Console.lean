/-
  `Console` — the front of the fan controller: a panel, a lamp and a log, before
  a world in which the attributes live.

  Everything that reaches the front is kept in order: the values pushed to the
  panel, the orders given to the lamp, and the records of the log.
-/
import FanControl.Action
import FanControl.Indicator
import FanControl.Log

namespace FanControl

/-- A world, and the front before it. -/
structure Console (ω : Type) where
  world : ω
  panel : Panel
  indicator : Indicator
  /-- The values pushed to the panel. -/
  pushes : List Push
  /-- The states the lamp was ordered into, whether it obeyed or not. -/
  lampOrders : List Bool
  /-- How often the panel was refreshed. -/
  refreshes : Nat
  log : List LogEntry

namespace Console

variable {ω α : Type}

/-- A new front. -/
def initial (w : ω) : Console ω := ⟨w, .initial, .initial, [], [], 0, []⟩

/-- Work on the world behind the front. -/
def inWorld (m : Action ω α) : Action (Console ω) α :=
  m.focus world fun w c => { c with world := w }

/-- Adds a record to the log. -/
def report (c : Console ω) (entry : LogEntry) : Console ω := { c with log := c.log ++ [entry] }

/-- Pushes a value to the panel; a change of the panel is reported. -/
def present (c : Console ω) (push : Push) : Console ω :=
  let c' := { c with panel := c.panel.present push, pushes := c.pushes ++ [push] }
  if c.panel.changes push then c'.report (.rowUpdated push.row (Panel.shown push)) else c'

/-- Orders the lamp into a state; a failure is reported and has no other consequence. -/
def order (lamp : Bool → Action ω Unit) (on : Bool) (c : Console ω) : Console ω :=
  match inWorld (lamp on) { c with lampOrders := c.lampOrders ++ [on] } with
  | (.ok (), c) => c
  | (.error e, c) => c.report (.ledSwitchFailed on e)

/-- Lets the indicator take a press or a release into account and passes its order on. -/
def indicate (lamp : Bool → Action ω Unit) (change : Indicator → Indicator × Option Bool)
    (c : Console ω) : Console ω :=
  let (indicator, on?) := change c.indicator
  let c := { c with indicator }
  match on? with
  | some on => order lamp on c
  | none => c

end Console

end FanControl
