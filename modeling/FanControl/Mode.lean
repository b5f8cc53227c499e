/-
  `Mode` — who decides the fan frequency: the kernel or the user.
-/
import FanControl.Error

namespace FanControl

/-- The operating mode. -/
inductive Mode where
  /-- The kernel derives the frequency from the temperature. -/
  | auto
  /-- The frequency is set by buttons and commands. -/
  | manual
deriving DecidableEq, Repr

namespace Mode

/-- The word for a mode. -/
def text : Mode → String
  | .auto => "auto"
  | .manual => "manual"

/-- The other mode. -/
def toggled : Mode → Mode
  | .auto => .manual
  | .manual => .auto

/-- The mode with this very word. -/
def ofText? (s : String) : Option Mode :=
  if s = "auto" then some .auto else if s = "manual" then some .manual else none

/-- The mode with this very word; any other text is an error. -/
def read (s : String) : Except Error Mode :=
  match ofText? s with
  | some m => .ok m
  | none => .error (.invalidMode s)

theorem ofText?_text (m : Mode) : ofText? m.text = some m := by cases m <;> decide

theorem ofText?_eq_some_iff {s : String} {m : Mode} : ofText? s = some m ↔ s = m.text := by
  constructor
  · intro h
    unfold ofText? at h
    split at h
    · cases h; assumption
    · split at h
      · cases h; assumption
      · cases h
  · rintro rfl; exact ofText?_text m

theorem toggled_toggled (m : Mode) : m.toggled.toggled = m := by cases m <;> rfl

end Mode

end FanControl
