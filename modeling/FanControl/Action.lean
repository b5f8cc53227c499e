/-
  `Action` — a step of work on a world.

  An action ends in a value or in an error, and it leaves a world either way: an
  access that fails may still have been attempted. Actions are composed with
  `do`; the first error ends the composition (`bind_apply`).
-/
import FanControl.Error

namespace FanControl

/-- Work on a world `ω` that yields an `α` or an error. -/
def Action (ω α : Type) : Type := ω → Except Error α × ω

namespace Action

variable {ω ω' α β : Type}

/-- The action that does nothing. -/
protected def pure (a : α) : Action ω α := fun w => (.ok a, w)

/-- One action after another, as long as there is no error. -/
protected def bind (m : Action ω α) (f : α → Action ω β) : Action ω β := fun w =>
  match m w with
  | (.ok a, w) => f a w
  | (.error e, w) => (.error e, w)

instance : Monad (Action ω) where
  pure := Action.pure
  bind := Action.bind

/-- Ends with an error. -/
def fail (e : Error) : Action ω α := fun w => (.error e, w)

/-- A result that depends on no world. -/
def ofExcept (r : Except Error α) : Action ω α := fun w => (r, w)

instance : MonadLift (Except Error) (Action ω) := ⟨ofExcept⟩

/-- A result that depends on the world and leaves it alone. -/
def query (f : ω → Except Error α) : Action ω α := fun w => (f w, w)

/-- Changes the world. -/
def modify (f : ω → ω) : Action ω Unit := fun w => (.ok (), f w)

/-- Runs an action and hands over its result, error or not. -/
def attempt (m : Action ω α) : Action ω (Except Error α) := fun w =>
  let (r, w) := m w
  (.ok r, w)

/-- Runs an action on a part of a larger world. -/
def focus (view : ω' → ω) (put : ω → ω' → ω') (m : Action ω α) : Action ω' α := fun w =>
  let (r, part) := m (view w)
  (r, put part w)

theorem pure_apply (a : α) (w : ω) : (pure a : Action ω α) w = (.ok a, w) := rfl

theorem bind_apply (m : Action ω α) (f : α → Action ω β) (w : ω) :
    (m >>= f) w =
      match m w with
      | (.ok a, w) => f a w
      | (.error e, w) => (.error e, w) := rfl

instance : LawfulMonad (Action ω) :=
  LawfulMonad.mk' (Action ω)
    (fun m => funext fun w => by
      show Action.bind m _ w = m w
      unfold Action.bind
      split <;> simp_all [Action.pure])
    (fun _ _ => rfl)
    (fun m f g => funext fun w => by
      show Action.bind (Action.bind m f) g w = Action.bind m (fun a => Action.bind (f a) g) w
      unfold Action.bind
      cases m w with
      | mk r w => cases r <;> rfl)

end Action

end FanControl
