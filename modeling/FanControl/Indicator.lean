/-
  `Indicator` — a lamp order for the first button pressed and the last released.
-/
namespace FanControl

/-- The number of buttons held, as far as presses and releases tell. -/
structure Indicator where
  /-- It has no bound here. There are three buttons at most, so a word of 32 bits shows the same. -/
  held : Nat
deriving DecidableEq, Repr

namespace Indicator

/-- An indicator that has seen no press. -/
def initial : Indicator := ⟨0⟩

/-- One button more is held; the lamp is to go on if it is the first. -/
def pressed (i : Indicator) : Indicator × Option Bool :=
  (⟨i.held + 1⟩, if i.held = 0 then some true else none)

/-- One button less is held; the lamp is to go off if none is left. -/
def released (i : Indicator) : Indicator × Option Bool :=
  (⟨i.held - 1⟩, if i.held ≤ 1 then some false else none)

end Indicator

end FanControl
