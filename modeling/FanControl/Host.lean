/-
  `Host` — the machine the program runs on, as far as the program can tell.

  Its files are a tree. Beside them stands a trace of the requests by which
  hardware is acquired, driven and released, so that what was taken can be held
  against what was given back.
-/
import FanControl.Action
import FanControl.Files.Tree
import FanControl.Gpio.Line
import FanControl.Log

namespace FanControl

/-- A request by which hardware is acquired, driven or released. -/
inductive Request where
  | exportPin (pin : Pin)
  | unexportPin (pin : Pin)
  | drivePin (pin : Pin) (high : Bool)
  | createPipe (path : String)
  | removePipe (path : String)
deriving DecidableEq, Repr

/-- A request, and whether it was granted. -/
structure Access where
  request : Request
  granted : Bool
deriving DecidableEq, Repr

/-- Files, and the history of requests. -/
structure Host where
  tree : FileTree
  /-- The requests so far, the latest first. -/
  trace : List Access
  /-- Whether an open value file can be watched for edges. -/
  watchesValues : Bool
  /-- The value files with an edge that nobody has waited for yet. -/
  edges : List NodeId

/-- A result, the records written on the way to it, and the machine afterwards. -/
abbrev Reported (α : Type) := α × List LogEntry × Host

namespace Host

/-- A machine with these files and nothing asked of it yet. -/
def ofTree (t : FileTree) : Host := ⟨t, [], true, []⟩

/-- Changes the files, or fails and leaves them alone. -/
def edit (f : FileTree → Except AccessFault FileTree) (blame : AccessFault → Error) :
    Action Host Unit := fun h =>
  match f h.tree with
  | .ok t => (.ok (), { h with tree := t })
  | .error e => (.error (blame e), h)

/-- Looks at the files. -/
def inspect {α : Type} (f : FileTree → Except AccessFault α) (blame : AccessFault → Error) :
    Action Host α := .query fun h => (f h.tree).mapError blame

/-- Carries a request out and notes it together with its outcome. -/
def noting {α : Type} (request : Request) (m : Action Host α) : Action Host α := fun h =>
  let (r, h) := m h
  (r, { h with trace := ⟨request, r.isOk⟩ :: h.trace })

end Host

end FanControl
