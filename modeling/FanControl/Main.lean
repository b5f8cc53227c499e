/-
  `Main` — the command line of the client on a real machine.

  The files that a command line refers to are loaded into a tree, the client runs
  on the tree, and the bytes that it left in the pipe are passed on to the real
  one.
-/
import FanControl.ClientProgram

namespace FanControl.Main

open ClientProgram

/-- Puts a file of the machine into a tree, if it can be read. -/
def loadFile (t : FileTree) (path : String) : IO FileTree := do
  try
    let bytes ← IO.FS.readBinFile path
    return t.place path (.file bytes.toList)
  catch _ => return t

/-- Opens the pipe of the daemon, if there is one. -/
def openPipe (path : String) : IO (Option IO.FS.Handle) := do
  try
    return some (← IO.FS.Handle.mk path .readWrite)
  catch _ => return none

/-- The bytes that were left in the pipe at a path. -/
def sentTo (path : String) (h : Host) : List UInt8 :=
  match h.tree.locate path with
  | .ok id => (h.tree.drainPipe id).1
  | .error _ => []

/-- Prints what is to be printed. -/
def finish (e : Ending) : IO UInt32 := do
  IO.print e.stdout
  IO.eprint e.stderr
  return UInt32.ofNat e.exitCode

/-- Runs the client. -/
def run (args : List String) : IO UInt32 := do
  let environment ← IO.getEnv Settings.fileVariable
  match Invocation.parse args with
  | .error u => finish u.ending
  | .ok i =>
    let file := Settings.file i.config environment
    let t ← loadFile (.withDirectories ["here"]) file
    let s := (Settings.load file t).toOption.getD .standard
    let t ← Attribute.all.foldlM (fun t a => loadFile t (s.attributes.path a)) t
    let pipe := i.fifo.getD s.pipe
    let handle ← openPipe pipe
    let t := if handle.isSome then t.place pipe (.pipe Pipe.empty.openReader) else t
    let (r, h) := i.run environment (.ofTree t)
    if let some handle := handle then
      handle.write ⟨(sentTo pipe h).toArray⟩
      handle.flush
    finish (endingOf r)

end FanControl.Main

/-- Runs the client on the arguments of the program. -/
def main (args : List String) : IO UInt32 := FanControl.Main.run args
