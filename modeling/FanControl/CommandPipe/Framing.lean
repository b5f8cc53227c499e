/-
  `Framing` — cutting a stream of bytes into lines.

  Lines end in a line feed; empty ones are skipped. A line that grows beyond the
  limit is dropped up to its line feed, and this is noted once. What is carried
  from one piece of the stream to the next is the unfinished line or the fact
  that it is being dropped.
-/
import FanControl.Command
import FanControl.Text.Utf8

namespace FanControl

/-- What is carried between two pieces of a stream. -/
inductive Framing where
  /-- The bytes of an unfinished line. -/
  | collecting (pending : List UInt8)
  /-- An unfinished line was too long. -/
  | discarding
deriving DecidableEq, Repr

/-- What a stream yields. -/
inductive Framed where
  /-- A line without its line feed. -/
  | line (bytes : List UInt8)
  /-- The limit was passed within a line. -/
  | overlong
deriving DecidableEq, Repr

namespace Framing

/-- Before the first byte. -/
def initial : Framing := .collecting []

/-- One byte. -/
def step (f : Framing) (b : UInt8) : Framing × Option Framed :=
  match f with
  | .discarding => (if b = 10 then initial else .discarding, none)
  | .collecting pending =>
    -- a blank line is no line
    if b = 10 then (initial, if pending.isEmpty then none else some (.line pending))
    else if pending.length ≥ Command.maxLineSize then (.discarding, some .overlong)
    else (.collecting (pending ++ [b]), none)

/-- A piece of the stream, and what it yields. -/
def feed : Framing → List UInt8 → Framing × List Framed
  | f, [] => (f, [])
  | f, b :: bs =>
    let (f, out) := f.step b
    let (f, outs) := feed f bs
    (f, out.toList ++ outs)

@[simp] theorem feed_nil (f : Framing) : f.feed [] = (f, []) := rfl

/-- A stream may be cut anywhere. -/
theorem feed_append (f : Framing) (a b : List UInt8) :
    f.feed (a ++ b) =
      (((f.feed a).1.feed b).1, (f.feed a).2 ++ ((f.feed a).1.feed b).2) := by
  induction a generalizing f with
  | nil => simp
  | cons c cs ih => simp [feed, ih, List.append_assoc]

end Framing

namespace Framed

/-- The text of a line; bytes that are no text are replaced. -/
def text? : Framed → Option String
  | .line bytes => some (String.ofList (Text.Utf8.decodeLossy bytes))
  | .overlong => none

end Framed

end FanControl
