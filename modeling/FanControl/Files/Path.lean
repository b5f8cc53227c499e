/-
  `Path` — how a path leads through a tree of directories.

  A path is a text. Its slashes separate steps: staying, going up, or entering a
  named entry. Repeated slashes count once; a slash at the end asks for a
  directory.
-/
import FanControl.Error.Access

namespace FanControl

/-- One step of a path. -/
inductive PathStep where
  | stay
  | up
  | enter (name : String)
deriving DecidableEq, Repr

/-- A path taken apart. -/
structure Route where
  /-- Whether it starts at the root. -/
  fromRoot : Bool
  steps : List PathStep
  /-- Whether it ends in a slash. -/
  wantsDirectory : Bool
deriving DecidableEq, Repr

namespace Path

/-- The pieces of a text between its slashes. -/
def pieces : List Char → List (List Char)
  | [] => [[]]
  | c :: cs =>
    if c = '/' then [] :: pieces cs
    else
      match pieces cs with
      | [] => [[c]]
      | p :: ps => (c :: p) :: ps

/-- The step that a piece between slashes stands for. -/
def step (piece : List Char) : PathStep :=
  if piece = ['.'] then .stay
  else if piece = ['.', '.'] then .up
  else .enter (String.ofList piece)

/-- The route of a path. -/
def route (path : String) : Route :=
  let s := path.toList
  { fromRoot := s.head? == some '/'
    steps := ((pieces s).filter (· ≠ [])).map step
    wantsDirectory := s.getLast? == some '/' }

/-- The path of the entry `name` of the directory `base`. -/
def join (base name : String) : String :=
  match base.toList.getLast? with
  | none => name
  | some '/' => base ++ name
  | some _ => base ++ "/" ++ name

/-- The longest entry name, in bytes. -/
def maxName : Nat := 255

/-- The longest path, in bytes. -/
def maxPath : Nat := 4095

/-- What is wrong with a path before any directory is looked at. -/
def fault? (path : String) : Option AccessFault :=
  if path.toList.any (·.toNat == 0) then some .nulInPath
  else if path.toList = [] then some (.system .noEntry)
  else if path.utf8ByteSize > maxPath then some (.system .nameTooLong)
  else none

end Path

end FanControl
