/-
  `Memory` — a store that is a plain value, with faults to order.

  A reading is a text or a failure; a successful write is what the next reading
  gives. Every attempt to write is recorded, whether it succeeds or not.
-/
import FanControl.Attribute

namespace FanControl

/-- The attributes as a value. -/
structure Memory where
  /-- What reading an attribute gives. -/
  reading : Attribute → Except Errno String
  /-- The failure of every write to an attribute, if it is set. -/
  writeFault : Attribute → Option Errno
  /-- The attempts to write, in order. -/
  attempts : List (Attribute × String)

namespace Memory

/-- Another value at one place of a function. -/
def update {α β : Type} [DecidableEq α] (f : α → β) (a : α) (b : β) : α → β :=
  fun x => if x = a then b else f x

/-- Sets what reading an attribute gives. -/
def setReading (m : Memory) (attr : Attribute) (r : Except Errno String) : Memory :=
  { m with reading := update m.reading attr r }

/-- Sets or clears the failure of writes to an attribute. -/
def setWriteFault (m : Memory) (attr : Attribute) (fault : Option Errno) : Memory :=
  { m with writeFault := update m.writeFault attr fault }

/-- Reads an attribute. -/
def read (attr : Attribute) : Action Memory String := .query fun m =>
  match m.reading attr with
  | .ok s => .ok s
  | .error e => .error (.attributeRead attr.name (.system e))

/-- Writes an attribute. -/
def write (attr : Attribute) (value : String) : Action Memory Unit := fun m =>
  let m := { m with attempts := m.attempts ++ [(attr, value)] }
  match m.writeFault attr with
  | none => (.ok (), m.setReading attr (.ok value))
  | some e => (.error (.attributeWrite attr.name (.system e)), m)

/-- The store that reads and writes the value. -/
def store : AttributeStore Memory := ⟨read, write⟩

end Memory

end FanControl
