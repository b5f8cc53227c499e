/-
  `Period` — a timer period that is nudged up and down between two bounds.
-/
import FanControl.Error

namespace FanControl

/-- A period with its bounds and the value it starts from. -/
structure Period where
  initial : Duration
  current : Duration
  lowest : Duration
  highest : Duration
deriving DecidableEq, Repr

namespace Period

/-- A period that starts at `initial`, brought between the bounds; bounds the wrong way round are
an error. -/
def make (initial lowest highest : Duration) : Except Error Period :=
  if highest.lt lowest then .error (.config (.periodBounds lowest highest))
  else
    let start := initial.clamp lowest highest
    .ok ⟨start, start, lowest, highest⟩

/-! ### Changes

Every change answers with the period that is current after it. -/

/-- Makes `d` the current period, as far as the bounds allow. -/
def set (p : Period) (d : Duration) : Duration × Period :=
  let current := d.clamp p.lowest p.highest
  (current, { p with current })

/-- Lengthens the period by `d`. -/
def increase (p : Period) (d : Duration) : Duration × Period :=
  p.set (p.current.saturatingAdd d)

/-- Shortens the period by `d`. -/
def decrease (p : Period) (d : Duration) : Duration × Period :=
  p.set (p.current.saturatingSub d)

/-- Goes back to the value the period started from. -/
def reset (p : Period) : Duration × Period := (p.initial, { p with current := p.initial })

/-- A change of a period. -/
inductive Change where
  | set (d : Duration)
  | increase (d : Duration)
  | decrease (d : Duration)
  | reset
deriving DecidableEq, Repr

/-- Makes a change. -/
def apply (p : Period) : Change → Duration × Period
  | .set d => p.set d
  | .increase d => p.increase d
  | .decrease d => p.decrease d
  | .reset => p.reset

end Period

end FanControl
