/-
  `Readiness` — waiting until one of several descriptors is ready.

  A descriptor is watched with an interest and a token. It joins the line of
  noticed descriptors when it becomes ready, and a wait looks along that line: it
  drops those that are idle again, hands out up to a batch of the ready ones, and
  puts these at the end of the line, since they may be ready still. So
  descriptors are handed out in the order in which they became ready, and none
  of them is starved.

  Only adding a descriptor can fail. The kernel refuses to make a set when it is
  out of descriptors or memory, and it fails a wait on a set that is not open;
  neither is modelled.
-/
import FanControl.Error
import FanControl.Files.Pipe

namespace FanControl

/-- What is watched on a descriptor. Errors and hang-ups are always watched. -/
inductive Interest where
  | readable
  | priority
deriving DecidableEq, Repr

/-- What is the case on a descriptor. -/
structure Condition where
  readable : Bool
  priority : Bool
  error : Bool
  hangUp : Bool
deriving DecidableEq, Repr

namespace Condition

/-- Nothing is the case. -/
def idle : Condition := ⟨false, false, false, false⟩

/-- The part of a condition that is watched. -/
def restrict (c : Condition) : Interest → Condition
  | .readable => { c with priority := false }
  | .priority => { c with readable := false }

/-- A condition as a sum of powers of two. -/
def bits (c : Condition) : Nat :=
  c.readable.toNat + 2 * c.priority.toNat + 8 * c.error.toNat + 16 * c.hangUp.toNat

end Condition

/-- What is the case on an end of a pipe: bytes can be read, or the other end is closed. -/
def Pipe.condition (p : Pipe) : PipeEnd → Condition
  | .read => ⟨!p.buffer.isEmpty, false, false, p.writers == 0⟩
  | .write => ⟨false, false, p.readers == 0, false⟩

/-- What may be offered for watching. -/
inductive Descriptor (δ : Type) where
  | live (d : δ)
  /-- Open, but of a kind that cannot be watched, such as a plain file. -/
  | unwatchable
  /-- Not open. -/
  | closed
deriving DecidableEq, Repr

/-- A watched descriptor. -/
structure Watch (δ : Type) where
  descriptor : δ
  interest : Interest
  token : UInt64
deriving DecidableEq, Repr

/-- A descriptor that was found ready. -/
structure Ready (δ : Type) where
  watch : Watch δ
  condition : Condition
deriving DecidableEq, Repr

/-- The watched descriptors, and those that were noticed. -/
structure Readiness (δ : Type) where
  watched : List (Watch δ)
  /-- The descriptors that were noticed to be ready, in that order. -/
  noticed : List δ
  /-- How many descriptors one wait hands out at most. -/
  batch : Nat

namespace Readiness

variable {δ : Type} [DecidableEq δ]

/-- Nothing watched yet; a wait hands out one descriptor at least. -/
def initial (batch : Nat) : Readiness δ := ⟨[], [], max 1 batch⟩

/-- The longest time that one wait can be given, in milliseconds. -/
def longestWait : Nat := 0x7fffffff

/-- The time that one wait is given, in milliseconds. -/
def waitMillis (d : Duration) : Nat := min d.millis longestWait

/-- What is the case and watched on a descriptor. -/
def conditionOf (status : δ → Condition) (w : Watch δ) : Condition :=
  (status w.descriptor).restrict w.interest

/-- Adds the descriptors that became ready to the line, in the order in which they are watched. -/
def notice (r : Readiness δ) (status : δ → Condition) : Readiness δ :=
  let fresh := r.watched.filter fun w =>
    conditionOf status w ≠ .idle && w.descriptor ∉ r.noticed
  { r with noticed := r.noticed ++ fresh.map (·.descriptor) }

/-- Watches a descriptor; it can be watched once. -/
def add (r : Readiness δ) (d : Descriptor δ) (interest : Interest) (token : UInt64)
    (status : δ → Condition) : Except Error (Readiness δ) :=
  match d with
  | .closed => .error (.readiness (.system .badDescriptor))
  | .unwatchable => .error (.readiness (.system .notPermitted))
  | .live d =>
    if r.watched.any (·.descriptor = d) then .error (.readiness (.system .alreadyExists))
    else
      let w : Watch δ := ⟨d, interest, token⟩
      .ok ({ r with watched := r.watched ++ [w] }.notice status)

/-- A descriptor is gone. -/
def remove (r : Readiness δ) (d : δ) : Readiness δ :=
  { r with
    watched := r.watched.filter (·.descriptor ≠ d)
    noticed := r.noticed.filter (· ≠ d) }

/-- Looks along a line of descriptors for `room` ready ones: what was found, and what was not
looked at. -/
def pick (r : Readiness δ) (status : δ → Condition) : (room : Nat) → List δ →
    List (Ready δ) × List δ
  | _, [] => ([], [])
  | 0, ds => ([], ds)
  | room + 1, d :: ds =>
    match r.watched.find? (·.descriptor = d) with
    | none => r.pick status (room + 1) ds
    | some w =>
      let c := conditionOf status w
      if c = .idle then r.pick status (room + 1) ds
      else
        let (found, rest) := r.pick status room ds
        (⟨w, c⟩ :: found, rest)

/-- Hands out ready descriptors; none if the wait would last until its end. -/
def wait (r : Readiness δ) (status : δ → Condition) : List (Ready δ) × Readiness δ :=
  let r := r.notice status
  let (found, rest) := r.pick status r.batch r.noticed
  -- what was handed out may be ready still, so it queues up again
  (found, { r with noticed := rest ++ found.map (·.watch.descriptor) })

end Readiness

end FanControl
