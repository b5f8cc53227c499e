/-
  `CommandPipe` — the pipe on which commands arrive.

  The daemon creates the pipe, in place of what may be left of an earlier one,
  and holds both of its ends, so that a client that goes away does not end the
  stream. Reading takes everything that is there, piece by piece.
-/
import FanControl.CommandPipe.Framing
import FanControl.Host
import FanControl.Log

namespace FanControl

/-- The open pipe, and what is left of the last line. -/
structure CommandPipe where
  path : String
  /-- The pipe behind the open ends. -/
  node : NodeId
  framing : Framing
deriving DecidableEq, Repr

namespace CommandPipe

/-! ### Opening and closing -/

/-- Removes what is at a path, if there is anything. -/
def clearPath (path : String) : Action Host Unit := fun h =>
  match h.tree.unlink path with
  | .ok t => (.ok (), { h with tree := t })
  | .error (.system .noEntry) => (.ok (), h)
  | .error f => (.error (.channel path f), h)

/-- Opens both ends of the pipe at a path. If the second one cannot be opened, the first one is
closed again. -/
def openEnds (path : String) : Action Host NodeId := fun h =>
  match h.tree.openEnd path .read with
  | .error f => (.error (.channel path f), h)
  | .ok (node, t) =>
    match t.openEnd path .write with
    | .error f => (.error (.channel path f), { h with tree := t.updatePipe node Pipe.closeReader })
    | .ok (_, t) => (.ok node, { h with tree := t })

/-- Makes a new pipe that everybody may use, and opens both of its ends. A failure behind the first
step would leave the pipe at its path. -/
def makePipe (path : String) : Action Host NodeId := do
  Host.noting (.createPipe path) (Host.edit (·.makePipe path) (.channel path))
  Host.edit (·.setPermissions path) (.channel path)
  openEnds path

/-- Creates the pipe, and reports when it is ready. -/
def create (path : String) (h : Host) : Reported (Except Error CommandPipe) :=
  match (do clearPath path; makePipe path : Action Host NodeId) h with
  | (.error e, h) => (.error e, [], h)
  | (.ok node, h) => (.ok { path, node, framing := .initial }, [.pipeReady path], h)

/-- Removes the pipe and closes both of its ends. -/
def close (c : CommandPipe) (h : Host) : List LogEntry × Host :=
  let (removed, h) := Host.noting (.removePipe c.path)
    (Host.edit (·.unlink c.path) (.channel c.path)) h
  let h := { h with tree := h.tree.updatePipe c.node fun p => p.closeReader.closeWriter }
  (match removed with
    | .error (.channel path f) => [.pipeRemovalFailed path f]
    | _ => [], h)

/-! ### Reading -/

/-- Takes everything out of the pipe, in the pieces in which it is read. -/
def receive (c : CommandPipe) (h : Host) : List (List UInt8) × Host :=
  let (bytes, t) := h.tree.drainPipe c.node
  (pieces Command.maxLineSize bytes, { h with tree := t })

/-- Takes pieces of the stream into account. -/
def feed (c : CommandPipe) (chunks : List (List UInt8)) : List Framed × CommandPipe :=
  chunks.foldl (fun (out, c) chunk =>
    let (framing, framed) := c.framing.feed chunk
    (out ++ framed, { c with framing })) ([], c)

/-- The report of what the stream yielded: one record for each line that is too long. -/
def complaints (framed : List Framed) : List LogEntry :=
  (framed.filter (· = .overlong)).map fun _ => .lineTooLong Command.maxLineSize

/-- The lines that the stream yielded. -/
def lines (framed : List Framed) : List String := framed.filterMap Framed.text?

/-- Reads everything that is in the pipe. -/
def read (c : CommandPipe) (h : Host) : List Framed × CommandPipe × Host :=
  let (chunks, h) := c.receive h
  let (framed, c) := c.feed chunks
  (framed, c, h)

end CommandPipe

end FanControl
