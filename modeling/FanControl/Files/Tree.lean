/-
  `Tree` — a tree of files as a value, and the accesses the program makes to it.

  A node is a directory, a plain file, a device that refuses every write, or a
  named pipe. Directories map names to node numbers, so a file that is removed
  while somebody holds it open stays readable, and a file written in place is
  seen by everybody who holds it. No access creates a file except `makePipe`
  and `place`, and a failing access leaves the tree as it was.
-/
import FanControl.Files.Path
import FanControl.Files.Pipe
import FanControl.Text.Utf8

namespace FanControl

/-- The number of a node. -/
abbrev NodeId := Nat

/-- What a node is. -/
inductive Node where
  | directory (parent : NodeId) (entries : List (String × NodeId))
  | file (content : List UInt8)
  /-- A device that opens for writing and has no space left. -/
  | full
  | pipe (state : Pipe)
deriving DecidableEq, Repr

/-- A tree of files; node 0 is the root. -/
structure FileTree where
  nodes : Array Node
  /-- The directory at which relative paths start. -/
  here : NodeId
deriving Repr

namespace FileTree

/-! ### Finding a node -/

/-- A tree that consists of a root with one directory per name, paths starting at the last. -/
def withDirectories (names : List String) : FileTree :=
  ⟨#[.directory 0 (names.zip (List.range' 1 names.length))]
      ++ (names.map fun _ => Node.directory 0 []).toArray, names.length⟩

/-- The node after a sequence of steps. Each step needs a directory to start from; a name must be
short enough and known there. -/
def walk (t : FileTree) (start : NodeId) : List PathStep → Except Errno NodeId
  | [] => .ok start
  | s :: rest =>
    match t.nodes[start]? with
    | some (.directory parent entries) =>
      match s with
      | .stay => t.walk start rest
      | .up => t.walk parent rest
      | .enter name =>
        if name.utf8ByteSize > Path.maxName then .error .nameTooLong
        else
          match entries.lookup name with
          | some id => t.walk id rest
          | none => .error .noEntry
    | _ => .error .notDirectory

/-- Whether a node is a directory. -/
def isDirectory (t : FileTree) (id : NodeId) : Bool :=
  match t.nodes[id]? with
  | some (.directory ..) => true
  | _ => false

/-- Where a route starts. -/
def startOf (t : FileTree) (r : Route) : NodeId := if r.fromRoot then 0 else t.here

/-- The node that a path names. -/
def locate (t : FileTree) (path : String) : Except AccessFault NodeId :=
  match Path.fault? path with
  | some f => .error f
  | none =>
    let r := Path.route path
    match t.walk (t.startOf r) r.steps with
    | .error e => .error (.system e)
    | .ok id =>
      if r.wantsDirectory && !t.isDirectory id then .error (.system .notDirectory) else .ok id

/-- Whether a path names a node. -/
def contains (t : FileTree) (path : String) : Bool := (t.locate path).isOk

/-- A new state for a node. -/
def setNode (t : FileTree) (id : NodeId) (n : Node) : FileTree :=
  { t with nodes := t.nodes.setIfInBounds id n }

/-! ### Plain accesses

An access that would have to wait for the other end of a pipe fails instead. -/

/-- The bytes of the file that a path names. -/
def readBytes (t : FileTree) (path : String) : Except AccessFault (List UInt8) := do
  let id ← t.locate path
  match t.nodes[id]? with
  | some (.file content) => .ok content
  | some (.directory ..) => .error (.system .isDirectory)
  | some .full => .error (.system .inputOutput)
  | some (.pipe _) => .error (.system .wouldBlock)
  | none => .error (.system .noEntry)

/-- The text of the file that a path names. -/
def readText (t : FileTree) (path : String) : Except AccessFault String := do
  let bytes ← t.readBytes path
  match textOfBytes? bytes with
  | some s => .ok s
  | none => .error .notUtf8

/-- Replaces the content of an existing file; a pipe that somebody reads takes the bytes in. -/
def replace (t : FileTree) (path : String) (bytes : List UInt8) :
    Except AccessFault FileTree := do
  let id ← t.locate path
  match t.nodes[id]? with
  | some (.file _) => .ok (t.setNode id (.file bytes))
  | some (.directory ..) => .error (.system .isDirectory)
  | some .full => if bytes.isEmpty then .ok t else .error (.system .noSpace)
  | some (.pipe p) =>
    -- nothing in a pipe is ever replaced: the bytes queue up behind those that are in it
    if p.readers = 0 then .error (.system .wouldBlock)
    else
      match p.offer bytes with
      | .ok (n, p) =>
        if n = bytes.length then .ok (t.setNode id (.pipe p)) else .error (.system .wouldBlock)
      | .error e => .error (.system e)
  | none => .error (.system .noEntry)

/-- Opens a file for reading from its start, again and again. -/
def openValue (t : FileTree) (path : String) : Except AccessFault NodeId := do
  let id ← t.locate path
  match t.nodes[id]? with
  | some (.pipe _) => .error (.system .wouldBlock)
  | _ => .ok id

/-- The first byte of an open file, none if the file is empty. -/
def firstByte (t : FileTree) (id : NodeId) : Except AccessFault (Option UInt8) :=
  match t.nodes[id]? with
  | some (.file content) => .ok content.head?
  | some (.directory ..) => .error (.system .isDirectory)
  | some .full => .ok (some 0)
  | some (.pipe _) => .error (.system .illegalSeek)
  | none => .error (.system .badDescriptor)

/-- One write at the start of what a path names, without waiting and without cutting off what is
already there; the number of bytes that were taken. -/
def deliver (t : FileTree) (path : String) (bytes : List UInt8) :
    Except AccessFault (Nat × FileTree) := do
  let id ← t.locate path
  match t.nodes[id]? with
  | some (.file old) =>
    -- what lies beyond the written bytes stays
    .ok (bytes.length, t.setNode id (.file (bytes ++ old.drop bytes.length)))
  | some (.directory ..) => .error (.system .isDirectory)
  | some .full => if bytes.isEmpty then .ok (0, t) else .error (.system .noSpace)
  | some (.pipe p) =>
    if p.readers = 0 then .error (.system .noDevice)
    else
      match p.offer bytes with
      | .ok (n, p) => .ok (n, t.setNode id (.pipe p))
      | .error e => .error (.system e)
  | none => .error (.system .noEntry)

/-! ### Entries -/

/-- The directory that holds the last entry of a route, and the entry's name. Where the route ends
in no name, the answer is `otherwise`. -/
def parentOf (t : FileTree) (path : String) (otherwise : Errno) :
    Except AccessFault (NodeId × String) :=
  match Path.fault? path with
  | some f => .error f
  | none =>
    let r := Path.route path
    match t.walk (t.startOf r) r.steps.dropLast with
    | .error e => .error (.system e)
    | .ok dir =>
      if !t.isDirectory dir then .error (.system .notDirectory)
      else
        match r.steps.getLast? with
        | some (.enter name) =>
          if name.utf8ByteSize > Path.maxName then .error (.system .nameTooLong)
          else .ok (dir, name)
        | _ => .error (.system otherwise)

/-- The entries of a directory. -/
def entriesOf (t : FileTree) (dir : NodeId) : List (String × NodeId) :=
  match t.nodes[dir]? with
  | some (.directory _ entries) => entries
  | _ => []

/-- Other entries for a directory. -/
def setEntries (t : FileTree) (dir : NodeId) (entries : List (String × NodeId)) : FileTree :=
  match t.nodes[dir]? with
  | some (.directory parent _) => t.setNode dir (.directory parent entries)
  | _ => t

/-- Removes a file; a directory stays. -/
def unlink (t : FileTree) (path : String) : Except AccessFault FileTree := do
  let (dir, name) ← t.parentOf path .isDirectory
  match (t.entriesOf dir).lookup name with
  | none => .error (.system .noEntry)
  | some id =>
    if t.isDirectory id then .error (.system .isDirectory)
    else if (Path.route path).wantsDirectory then .error (.system .notDirectory)
    else .ok (t.setEntries dir ((t.entriesOf dir).filter (·.1 ≠ name)))

/-- Adds a node under a new name in a directory. -/
def addEntry (t : FileTree) (dir : NodeId) (name : String) (n : Node) : FileTree :=
  let t' := t.setEntries dir (t.entriesOf dir ++ [(name, t.nodes.size)])
  { t' with nodes := t'.nodes.push n }

/-- Creates a pipe where nothing is yet. -/
def makePipe (t : FileTree) (path : String) : Except AccessFault FileTree := do
  let (dir, name) ← t.parentOf path .alreadyExists
  match (t.entriesOf dir).lookup name with
  | some _ => .error (.system .alreadyExists)
  | none =>
    if (Path.route path).wantsDirectory then .error (.system .noEntry)
    else .ok (t.addEntry dir name (.pipe .empty))

/-- Gives what a path names other permissions. A tree keeps none, so all that matters is whether
there is something at the path. -/
def setPermissions (t : FileTree) (path : String) : Except AccessFault FileTree := do
  let _ ← t.locate path
  return t

/-! ### Open pipes -/

/-- Opens an end of the pipe that a path names, without waiting, and gives the node behind it. What
is no pipe can be opened as well, but a directory only for reading. -/
def openEnd (t : FileTree) (path : String) (side : PipeEnd) :
    Except AccessFault (NodeId × FileTree) := do
  let id ← t.locate path
  match t.nodes[id]? with
  | some (.pipe p) =>
    match p.openEnd side with
    | .ok p => .ok (id, t.setNode id (.pipe p))
    | .error e => .error (.system e)
  | some (.directory ..) => if side = .write then .error (.system .isDirectory) else .ok (id, t)
  | some _ => .ok (id, t)
  | none => .error (.system .noEntry)

/-- The pipe behind an open end. -/
def pipe? (t : FileTree) (id : NodeId) : Option Pipe :=
  match t.nodes[id]? with
  | some (.pipe p) => some p
  | _ => none

/-- Changes the pipe behind an open end. -/
def updatePipe (t : FileTree) (id : NodeId) (f : Pipe → Pipe) : FileTree :=
  match t.pipe? id with
  | some p => t.setNode id (.pipe (f p))
  | none => t

/-- Takes everything out of an open pipe. -/
def drainPipe (t : FileTree) (id : NodeId) : List UInt8 × FileTree :=
  match t.pipe? id with
  | some p => (p.drain.1, t.setNode id (.pipe p.drain.2))
  | none => ([], t)

/-! ### Setting a tree up -/

/-- Puts a node at the end of a chain of names, making the directories on the way. A plain file
that is already there is written in place; an existing directory is kept; anything else gives
way. -/
def placeAt (t : FileTree) (dir : NodeId) (n : Node) : List String → FileTree
  | [] => t
  | [name] =>
    match (t.entriesOf dir).lookup name with
    | none =>
      match n with
      | .directory _ entries => t.addEntry dir name (.directory dir entries)
      | n => t.addEntry dir name n
    | some id =>
      match t.nodes[id]?, n with
      | some (.file _), .file content => t.setNode id (.file content)
      | some (.directory ..), .directory .. => t
      | _, n =>
        (t.setEntries dir ((t.entriesOf dir).filter (·.1 ≠ name))).addEntry dir name n
  | name :: rest =>
    match (t.entriesOf dir).lookup name with
    | some id => t.placeAt id n rest
    | none => (t.addEntry dir name (.directory dir [])).placeAt t.nodes.size n rest

/-- The names on a route; going up takes the last name back. -/
def namesOf (steps : List PathStep) : List String :=
  (steps.foldl (fun acc s =>
    match s with
    | .stay => acc
    | .up => acc.tail
    | .enter name => name :: acc) []).reverse

/-- Puts a node at a path, making the directories on the way. -/
def place (t : FileTree) (path : String) (n : Node) : FileTree :=
  let r := Path.route path
  t.placeAt (t.startOf r) n (namesOf r.steps)

/-- Removes an entry with everything in it, if there is one. -/
def removeAll (t : FileTree) (path : String) : FileTree :=
  match t.parentOf path .noEntry with
  | .ok (dir, name) => t.setEntries dir ((t.entriesOf dir).filter (·.1 ≠ name))
  | .error _ => t

/-- The paths and nodes below a directory, at most `depth` levels deep; `above` is put before each
path. -/
def below (t : FileTree) : (depth : Nat) → (dir : NodeId) → (above : String) →
    List (String × Node)
  | 0, _, _ => []
  | depth + 1, dir, above =>
    (t.entriesOf dir).flatMap fun (name, id) =>
      match t.nodes[id]? with
      | none => []
      | some n => (above ++ name, n) :: t.below depth id (above ++ name ++ "/")

/-- Everything below the directory at which relative paths start. -/
def listing (t : FileTree) : List (String × Node) := t.below t.nodes.size t.here ""

end FileTree

end FanControl
